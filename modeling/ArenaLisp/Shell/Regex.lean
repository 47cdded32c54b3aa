import ArenaLisp.Decimal.Integer
import ArenaLisp.Shell.Pattern

/-!
# Regular expressions

Two spellings of one language: in the basic one brackets and braces are written with a backslash, in
the extended one without.  A match starts as early as possible and is then as long as possible.

## Main definitions

- `Regex`: a regular expression.
- `Regex.read`: the expression that a text stands for.
- `Regex.ends`: the places where a match from a given place can end.
- `Regex.first`: the first match in a text.
-/

namespace ArenaLisp.Shell

/-- A regular expression. -/
inductive Regex where
  | empty
  | char (c : Char)
  | any
  | oneOf (isNegated : Bool) (ranges : List (Char × Char))
  | lineStart
  | lineEnd
  | wordEdge (starts ends : Bool)
  | group (number : Nat) (body : Regex)
  | sequence (first second : Regex)
  | either (first second : Regex)
  | repetition (least : Nat) (most : Option Nat) (body : Regex)
  | again (number : Nat)
  deriving Repr

namespace Regex

/-! ## Reading -/

/-- The two spellings. -/
inductive Dialect where
  | basic
  | extended
  deriving Repr, DecidableEq

/-- What an expression is made of besides plain characters. -/
inductive Mark where
  | openGroup
  | closeGroup
  | openBrace
  | bar
  | star
  | plus
  | optional
  | dot
  | bracket
  | caret
  | dollar
  | escape (c : Char)
  | plain (c : Char)
  deriving Repr, DecidableEq

/-- The mark at the start of a text, and what follows it. -/
def mark? (dialect : Dialect) : Octets → Option (Mark × Octets)
  | [] => none
  | '\\' :: c :: rest =>
    let special : Option Mark :=
      match c with
      | '(' => some .openGroup
      | ')' => some .closeGroup
      | '\x7b' => some .openBrace
      | '|' => some .bar
      | '+' => some .plus
      | '?' => some .optional
      | _ => none
    match dialect, special with
    | .basic, some mark => some (mark, rest)
    | .extended, some _ => some (.plain c, rest)
    | _, none => some (.escape c, rest)
  | c :: rest =>
    let common : Option Mark :=
      match c with
      | '*' => some .star
      | '.' => some .dot
      | '[' => some .bracket
      | '^' => some .caret
      | '$' => some .dollar
      | _ => none
    let extended : Option Mark :=
      match c with
      | '(' => some .openGroup
      | ')' => some .closeGroup
      | '\x7b' => some .openBrace
      | '|' => some .bar
      | '+' => some .plus
      | '?' => some .optional
      | _ => none
    match common, dialect, extended with
    | some mark, _, _ => some (mark, rest)
    | none, .extended, some mark => some (mark, rest)
    | none, _, _ => some (.plain c, rest)

/-- The ranges of the characters of words. -/
def wordRanges : List (Char × Char) := [('0', '9'), ('A', 'Z'), ('_', '_'), ('a', 'z')]

/-- The ranges of blank characters. -/
def spaceRanges : List (Char × Char) := [('\t', '\r'), (' ', ' ')]

/-- What a character behind a backslash stands for. -/
def escaped (c : Char) : Regex :=
  match c with
  | 'w' => .oneOf false wordRanges
  | 'W' => .oneOf true wordRanges
  | 's' => .oneOf false spaceRanges
  | 'S' => .oneOf true spaceRanges
  | 'b' => .wordEdge true true
  | '<' => .wordEdge true false
  | '>' => .wordEdge false true
  | 'n' => .char '\n'
  | 't' => .char '\t'
  | _ => if '1' ≤ c ∧ c ≤ '9' then .again (c.toNat - '0'.toNat) else .char c

/-- The set behind an opening bracket, and what follows it. -/
def set? (text : Octets) : Option (Regex × Octets) :=
  let (isNegated, rest) := match text with
    | '^' :: rest => (true, rest)
    | rest => (false, rest)
  (setRanges (rest.length + 1) (rest.map fun c => (c, false))).map fun (ranges, rest) =>
    (.oneOf isNegated ranges, Field.text rest)

/-- The bounds behind an opening brace, and what follows them. -/
def bounds? (dialect : Dialect) (text : Octets) : Option (Nat × Option Nat × Octets) :=
  let least := text.takeWhile Char.isDigit
  let rest := text.drop least.length
  let closing : Octets := if dialect = .basic then ['\\', '\x7d'] else ['\x7d']
  let (most, rest) : Option Nat × Octets :=
    match rest with
    | ',' :: rest =>
      let most := rest.takeWhile Char.isDigit
      (if most.isEmpty then none else some (Decimal.digitsValue most), rest.drop most.length)
    | _ => (some (Decimal.digitsValue least), rest)
  if closing.isPrefixOf rest then
    some (Decimal.digitsValue least, most, rest.drop closing.length)
  else none

/-- The state of a reader: the text left, and the number of groups opened. -/
structure Reader where
  rest : Octets
  groups : Nat := 0

/-- The repetitions that follow an expression. -/
def repeated (dialect : Dialect) (body : Regex) : Nat → Octets → Option (Regex × Octets)
  | 0, rest => some (body, rest)
  | fuel + 1, text =>
    match mark? dialect text with
    | some (.star, rest) => repeated dialect (.repetition 0 none body) fuel rest
    | some (.plus, rest) => repeated dialect (.repetition 1 none body) fuel rest
    | some (.optional, rest) => repeated dialect (.repetition 0 (some 1) body) fuel rest
    | some (.openBrace, rest) =>
      match bounds? dialect rest with
      | some (least, most, rest) => repeated dialect (.repetition least most body) fuel rest
      | none => none
    | _ => some (body, text)

/-- Whether an expression ends here, or the part of it that a bar or a closing bracket ends. -/
def endsPart (dialect : Dialect) (text : Octets) : Bool :=
  match mark? dialect text with
  | none | some (.bar, _) | some (.closeGroup, _) => true
  | _ => false

/-- One unit of an expression, given how to read what is inside of brackets and whether it is the
    first of its sequence. -/
def unit (dialect : Dialect) (inside : Reader → Option (Regex × Reader)) (isFirst : Bool)
    (s : Reader) : Option (Regex × Reader) :=
  match mark? dialect s.rest with
  | none => none
  | some (mark, rest) =>
    let found (r : Regex) : Option (Regex × Reader) := some (r, { s with rest })
    match mark with
    | .plain c => found (.char c)
    | .escape c => found (escaped c)
    | .dot => found .any
    | .bracket => (set? rest).map fun (r, rest) => (r, { s with rest })
    | .caret => if dialect = .extended || isFirst then found .lineStart else found (.char '^')
    | .dollar =>
      if dialect = .extended || endsPart dialect rest then found .lineEnd else found (.char '$')
    | .star => if isFirst then found (.char '*') else none
    | .plus => if isFirst then found (.char '+') else none
    | .optional => if isFirst then found (.char '?') else none
    | .openBrace => if isFirst then found (.char '\x7b') else none
    | .openGroup =>
      let number := s.groups + 1
      match inside { rest, groups := number } with
      | some (body, s) =>
        match mark? dialect s.rest with
        | some (.closeGroup, rest) => some (.group number body, { s with rest })
        | _ => none
      | none => none
    | .bar | .closeGroup => none

/-- A sequence of units, each with its repetitions; at most `fuel` of them. -/
def units (dialect : Dialect) (inside : Reader → Option (Regex × Reader)) :
    Nat → Bool → Reader → Option (Regex × Reader)
  | 0, _, _ => none
  | fuel + 1, isFirst, s =>
    if endsPart dialect s.rest then some (.empty, s)
    else
      match unit dialect inside isFirst s with
      | none => none
      | some (r, s) =>
        let isAnchor := match r with
          | .lineStart => true
          | _ => false
        let bound := if isAnchor && dialect = .basic then 0 else s.rest.length
        match repeated dialect r bound s.rest with
        | none => none
        | some (r, rest) =>
          (units dialect inside fuel (isAnchor && dialect = .basic) { s with rest }).map
            fun (more, s) => (.sequence r more, s)

/-- Alternatives, with at most `fuel` levels and alternatives. -/
def alternatives (dialect : Dialect) : Nat → Reader → Option (Regex × Reader)
  | 0, _ => none
  | fuel + 1, s =>
    match units dialect (alternatives dialect fuel) (s.rest.length + 1) true s with
    | none => none
    | some (first, s) =>
      match mark? dialect s.rest with
      | some (.bar, rest) =>
        (alternatives dialect fuel { s with rest }).map fun (second, s) =>
          (.either first second, s)
      | _ => some (first, s)

/-- The expression that a text stands for. -/
def read (dialect : Dialect) (text : Octets) : Option Regex :=
  match alternatives dialect (text.length + 1) { rest := text } with
  | some (r, s) => if s.rest.isEmpty then some r else none
  | none => none

/-! ## Matching -/

/-- A place in a text: the character in front of it, the text behind it, how far it is from the
    start, and what the groups have taken so far. -/
structure Spot where
  before : Option Char := none
  rest : Octets
  taken : Nat := 0
  groups : List (Nat × Octets) := []

namespace Spot

/-- The next place. -/
def step? (s : Spot) : Option (Char × Spot) :=
  match s.rest with
  | [] => none
  | c :: rest => some (c, { s with before := some c, rest, taken := s.taken + 1 })

/-- Places without repetitions, the first of each kept. -/
def distinct (spots : List Spot) : List Spot :=
  (spots.foldl
    (fun (seen, kept) (s : Spot) =>
      if seen.contains s.taken then (seen, kept) else (s.taken :: seen, s :: kept))
    (([], []) : List Nat × List Spot)).2.reverse

/-- The place so many characters further on. -/
def skip : Nat → Spot → Option Spot
  | 0, s => some s
  | n + 1, s =>
    match s.step? with
    | some (_, s) => skip n s
    | none => none

end Spot

/-- Whether a character belongs to a word. -/
def isWordChar (c : Char) : Bool := c.isAlphanum || c = '_'

/-- Whether two characters are the same, up to case if that does not matter. -/
def sameChar (ignoresCase : Bool) (a b : Char) : Bool :=
  a = b || (ignoresCase && a.toLower = b.toLower)

/-- Whether a character lies in a range, up to case if that does not matter. -/
def inRanges (ignoresCase : Bool) (ranges : List (Char × Char)) (c : Char) : Bool :=
  let holds (c : Char) : Bool := ranges.any fun (low, high) => low ≤ c && c ≤ high
  holds c || (ignoresCase && (holds c.toLower || holds c.toUpper))

/-- The places behind repetitions of a match, found round by round: `frontier` holds those behind
    `count` repetitions, `found` those behind enough of them.  `fuel` bounds the number of
    rounds. -/
def repetitions (one : Spot → List Spot) (least : Nat) (most : Option Nat) :
    Nat → Nat → List Spot → List Spot → List Spot
  | 0, _, _, found => found
  | fuel + 1, count, frontier, found =>
    let reached := Spot.distinct (frontier.flatMap one)
    let further :=
      if count < least then reached
      else reached.filter fun t => found.all fun s => s.taken ≠ t.taken
    if further.isEmpty || most.any (· ≤ count) then found
    else
      repetitions one least most fuel (count + 1) further
        (if least ≤ count + 1 then further ++ found else found)

/-- The places where a match from a given place can end. -/
def ends (ignoresCase : Bool) : Regex → Spot → List Spot
  | .empty, s => [s]
  | .char c, s =>
    match s.step? with
    | some (d, t) => if sameChar ignoresCase c d then [t] else []
    | none => []
  | .any, s =>
    match s.step? with
    | some (_, t) => [t]
    | none => []
  | .oneOf isNegated ranges, s =>
    match s.step? with
    | some (c, t) => if inRanges ignoresCase ranges c != isNegated then [t] else []
    | none => []
  | .lineStart, s => if s.before.isNone then [s] else []
  | .lineEnd, s => if s.rest.isEmpty then [s] else []
  | .wordEdge starts stops, s =>
    let before := s.before.any isWordChar
    let behind := s.rest.head?.any isWordChar
    if (starts && !before && behind) || (stops && before && !behind) then [s] else []
  | .group number body, s =>
    (body.ends ignoresCase s).map fun t =>
      { t with groups := (number, s.rest.take (t.taken - s.taken)) :: t.groups }
  | .sequence first second, s =>
    Spot.distinct ((first.ends ignoresCase s).flatMap (second.ends ignoresCase))
  | .either first second, s =>
    Spot.distinct (first.ends ignoresCase s ++ second.ends ignoresCase s)
  | .repetition least most body, s =>
    repetitions (body.ends ignoresCase) least most (s.rest.length + least + 1) 0 [s]
      (if least = 0 then [s] else [])
  | .again number, s =>
    match s.groups.lookup number with
    | none => []
    | some text => if text.isPrefixOf s.rest then (Spot.skip text.length s).toList else []

/-- The longest match from a given place. -/
def longest? (r : Regex) (ignoresCase : Bool) (s : Spot) : Option Spot :=
  match r.ends ignoresCase s with
  | [] => none
  | t :: rest => some (rest.foldl (fun best t => if best.taken < t.taken then t else best) t)

/-- The first match in a text from a given place on: where it starts and where it ends.  `fuel`
    bounds the number of places. -/
def firstFrom (r : Regex) (ignoresCase : Bool) : Nat → Spot → Option (Spot × Spot)
  | 0, _ => none
  | fuel + 1, s =>
    match r.longest? ignoresCase { s with groups := [] } with
    | some t => some (s, t)
    | none =>
      match s.step? with
      | some (_, s) => firstFrom r ignoresCase fuel s
      | none => none

/-- The first match in a text. -/
def first (r : Regex) (ignoresCase : Bool) (text : Octets) : Option (Spot × Spot) :=
  r.firstFrom ignoresCase (text.length + 1) { rest := text }

/-- The text of a group of a match; the whole match is group 0. -/
def groupText (start stop : Spot) (number : Nat) : Octets :=
  if number = 0 then start.rest.take (stop.taken - start.taken)
  else (stop.groups.lookup number).getD []

end Regex

end ArenaLisp.Shell
