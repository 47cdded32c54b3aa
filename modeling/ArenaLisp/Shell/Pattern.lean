import ArenaLisp.Files.Glob
import ArenaLisp.Shell.Octets

/-!
# Patterns of command lines

A pattern is a text some characters of which are quoted.  A quoted character stands for itself; of
the others `*`, `?` and brackets have the meaning that they have in the patterns for paths, and
brackets may also hold classes of characters.

## Main definitions

- `Field`: a text with the characters marked that are quoted.
- `Field.items`: the pieces of a pattern.
- `Field.accepts`: whether a pattern stands for a whole text.
- `trimStart`, `trimEnd`: a text without the shortest or longest part at one end that matches.
-/

namespace ArenaLisp.Shell

/-- A text each character of which is quoted or not. -/
abbrev Field := List (Char × Bool)

/-- The text without marks. -/
def Field.text (field : Field) : Octets := field.map (·.1)

/-- The characters of a class, as ranges. -/
def classRanges : String → Option (List (Char × Char))
  | "alpha" => some [('A', 'Z'), ('a', 'z')]
  | "digit" => some [('0', '9')]
  | "alnum" => some [('0', '9'), ('A', 'Z'), ('a', 'z')]
  | "upper" => some [('A', 'Z')]
  | "lower" => some [('a', 'z')]
  | "space" => some [('\t', '\r'), (' ', ' ')]
  | "blank" => some [('\t', '\t'), (' ', ' ')]
  | "punct" => some [('!', '/'), (':', '@'), ('[', '\x60'), ('\x7b', '~')]
  | "print" => some [(' ', '~')]
  | "graph" => some [('!', '~')]
  | "cntrl" => some [(Char.ofNat 0, '\x1f'), ('\x7f', '\x7f')]
  | "xdigit" => some [('0', '9'), ('A', 'F'), ('a', 'f')]
  | _ => none

/-- The class of characters that is named behind a bracket inside of brackets, and what follows
    it. -/
def classAt? (text : Octets) : Option (List (Char × Char) × Nat) :=
  match text with
  | ':' :: rest =>
    let name := rest.takeWhile Char.isAlpha
    match rest.drop name.length with
    | ':' :: ']' :: _ => (classRanges (String.ofList name)).map fun ranges =>
        (ranges, name.length + 3)
    | _ => none
  | _ => none

/-- The ranges up to the bracket that closes a set, and what follows it.  Each step takes one
    character, range or class before it looks for the bracket. -/
def setRanges : Nat → Field → Option (List (Char × Char) × Field)
  | 0, _ => none
  | _, [] => none
  | fuel + 1, (c, isQuoted) :: rest =>
    let (ranges, rest) : List (Char × Char) × Field :=
      match (if c = '[' && !isQuoted then classAt? (Field.text rest) else none), rest with
      | some (ranges, length), rest => (ranges, rest.drop length)
      | none, ('-', false) :: (high, highQuoted) :: behind =>
        if high = ']' && !highQuoted then ([(c, c)], rest) else ([(c, high)], behind)
      | none, rest => ([(c, c)], rest)
    match rest with
    | (']', false) :: rest => some (ranges, rest)
    | rest => (setRanges fuel rest).map fun (more, rest) => (ranges ++ more, rest)

/-- The set behind an opening bracket, and what follows it. -/
def set? (field : Field) : Option (Glob.Item × Field) :=
  match field with
  | ('!', false) :: rest =>
    (setRanges (rest.length + 1) rest).map fun (ranges, rest) => (.oneOf true ranges, rest)
  | rest => (setRanges (rest.length + 1) rest).map fun (ranges, rest) => (.oneOf false ranges, rest)

/-- The pieces of a pattern of at most `fuel` characters. -/
def itemsFrom : Nat → Field → List Glob.Item
  | 0, _ => []
  | _, [] => []
  | fuel + 1, (c, isQuoted) :: rest =>
    if isQuoted then .char c :: itemsFrom fuel rest
    else if c = '*' then .run :: itemsFrom fuel rest
    else if c = '?' then .anyChar :: itemsFrom fuel rest
    else if c = '[' then
      match set? rest with
      | some (item, rest) => item :: itemsFrom fuel rest
      | none => .char c :: itemsFrom fuel rest
    else if c = '\\' then
      match rest with
      | (d, _) :: rest => .char d :: itemsFrom fuel rest
      | [] => [.char c]
    else .char c :: itemsFrom fuel rest

/-- The pieces of a pattern. -/
def Field.items (field : Field) : List Glob.Item := itemsFrom field.length field

/-- Whether a pattern can stand for more than itself. -/
def Field.isMagic (field : Field) : Bool :=
  field.any fun (c, isQuoted) => !isQuoted && (c = '*' || c = '?' || c = '[')

/-- Whether a pattern stands for a whole text. -/
def Field.accepts (pattern : Field) (text : Octets) : Bool := Glob.matchItems pattern.items text

/-- The first candidate that satisfies a condition, cut off by a function. -/
def firstCut (counts : List Nat) (isMatch : Nat → Bool) (cut : Nat → Octets) (text : Octets) :
    Octets :=
  match counts.find? isMatch with
  | some count => cut count
  | none => text

/-- A text without a part at its start that a pattern stands for. -/
def trimStart (longest : Bool) (pattern : Field) (text : Octets) : Octets :=
  let items := pattern.items
  let counts := List.range (text.length + 1)
  firstCut (if longest then counts.reverse else counts)
    (fun n => Glob.matchItems items (text.take n)) (fun n => text.drop n) text

/-- A text without a part at its end that a pattern stands for. -/
def trimEnd (longest : Bool) (pattern : Field) (text : Octets) : Octets :=
  let items := pattern.items
  let counts := List.range (text.length + 1)
  firstCut (if longest then counts else counts.reverse)
    (fun n => Glob.matchItems items (text.drop n)) (fun n => text.take n) text

end ArenaLisp.Shell
