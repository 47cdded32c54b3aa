import ArenaLisp.Shell.Effect
import ArenaLisp.Shell.Pattern
import ArenaLisp.Shell.Utility.Lines
import ArenaLisp.Shell.Utility.Print

/-!
# Texts character by character

`cut` keeps columns or fields of each line; `tr` replaces, deletes or squeezes characters.

## Main definitions

- `Selection`: ranges of columns or fields.
- `charSet`: the characters that a set stands for.
- `Request.cut`, `Request.tr`.
-/

namespace ArenaLisp.Shell

/-! ## Columns -/

/-- Ranges of columns or fields, counted from one; a range without an end goes on for ever. -/
abbrev Selection := List (Nat × Option Nat)

/-- One range of a selection. -/
def rangeOf (text : Octets) : Option (Nat × Option Nat) :=
  let low := text.takeWhile Char.isDigit
  match text.drop low.length with
  | [] =>
    if low.isEmpty then none else some (Decimal.digitsValue low, some (Decimal.digitsValue low))
  | '-' :: high =>
    if high.all Char.isDigit && !(low.isEmpty && high.isEmpty) then
      some (if low.isEmpty then 1 else Decimal.digitsValue low,
        if high.isEmpty then none else some (Decimal.digitsValue high))
    else none
  | _ => none

/-- The selection that a text describes. -/
def selection? (text : Octets) : Option Selection :=
  let ranges := ((Text.pieces [','] text).flatMap (Text.pieces [' '])).map rangeOf
  if ranges.all Option.isSome then some (ranges.filterMap id) else none

/-- Whether a selection holds a place. -/
def Selection.holds (ranges : Selection) (place : Nat) : Bool :=
  ranges.any fun (low, high) => low ≤ place && high.all (place ≤ ·)

/-- The items at the places of a selection. -/
def Selection.pick (ranges : Selection) (isComplement : Bool) (items : List α) : List α :=
  ((List.range items.length).zip items).filterMap fun (place, item) =>
    if ranges.holds (place + 1) != isComplement then some item else none

/-- The columns or fields of each line that a selection holds. -/
def Request.cut (r : Request) : Effect :=
  let complement := octets "--complement"
  let isComplement := r.args.contains complement
  let r := { r with args := r.args.filter (· ≠ complement) }
  r.withFlags "sn" "cbfd" 1 fun f =>
    let tryHelp := octets "\nTry 'cut --help' for more information."
    let list := f.value? 'c' <|> f.value? 'b' <|> f.value? 'f'
    match list with
    | none =>
      .failure 1
        (r.naming (octets "you must specify a list of bytes, characters, or fields") ++ tryHelp)
    | some list =>
      match selection? list with
      | none => .failure 1 (r.naming (octets "invalid byte, character or field list") ++ tryHelp)
      | some ranges =>
        if ranges.any fun (low, _) => low = 0 then
          let kind := if f.has 'f' then "fields" else "byte/character positions"
          .failure 1 (r.naming (octets (kind ++ " are numbered from 1")) ++ tryHelp)
        else
          let delimiter := ((f.value? 'd').bind List.head?).getD '\t'
          r.perFile f.operands 1 plainComplaint fun _ text =>
            unlines ((linesOf text).filterMap fun line =>
              if !f.has 'f' then some (ranges.pick isComplement line)
              else if line.contains delimiter then
                some (List.intercalate [delimiter]
                  (ranges.pick isComplement (Text.pieces [delimiter] line)))
              else if f.has 's' then none
              else some line)

/-! ## Sets -/

/-- The characters between two ones. -/
def charsBetween (low high : Char) : Octets :=
  (List.range (high.toNat + 1 - low.toNat)).map fun n => Char.ofNat (low.toNat + n)

/-- A character of a set, possibly written with a backslash, and what follows it. -/
def setChar : Octets → Option (Char × Octets)
  | [] => none
  | '\\' :: c :: rest =>
    if isOctal c then some (octalByte (c :: rest))
    else some ((escapeLetter? c).getD c, rest)
  | c :: rest => some (c, rest)

/-- The characters that a set stands for: classes, ranges and single characters.  `fuel` bounds the
    steps. -/
def charSet : Nat → Octets → Octets
  | 0, _ => []
  | _, [] => []
  | fuel + 1, text =>
    let plain : Octets :=
      match setChar text with
      | none => []
      | some (low, '-' :: rest) =>
        match setChar rest with
        | some (high, rest) => charsBetween low high ++ charSet fuel rest
        | none => [low, '-']
      | some (c, rest) => c :: charSet fuel rest
    match text with
    | '[' :: rest =>
      match classAt? rest with
      | some (ranges, length) =>
        ranges.flatMap (fun (low, high) => charsBetween low high) ++ charSet fuel (rest.drop length)
      | none => plain
    | _ => plain

/-- All bytes that are not in a set. -/
def complementSet (set : Octets) : Octets :=
  ((List.range 256).map Char.ofNat).filter fun c => !set.contains c

/-- A text in which characters of a set do not follow themselves. -/
def squeeze (set : Octets) : Octets → Octets
  | a :: b :: rest =>
    if a = b && set.contains a then squeeze set (b :: rest) else a :: squeeze set (b :: rest)
  | text => text

/-- The character that takes the place of another one: that at the same place of the second set, or
    its last one. -/
def replacement (first second : Octets) (c : Char) : Char :=
  match first.reverse.findIdx? (· = c) with
  | some place => second.getD (first.length - 1 - place) (second.getLastD c)
  | none => c

/-- Characters replaced, deleted or squeezed. -/
def Request.tr (r : Request) : Effect :=
  r.withFlags "dscCt" "" 1 fun f =>
    let tryHelp := octets "\nTry 'tr --help' for more information."
    let sets := f.operands.map fun text => charSet (text.length + 1) text
    let first := sets.headD []
    let first := if f.has 'c' || f.has 'C' then complementSet first else first
    let second := (sets.drop 1).headD []
    let written (text : Octets) : Effect := { Effect.output text with usesInput := true }
    match f.operands with
    | [] => .failure 1 (r.naming (octets "missing operand") ++ tryHelp)
    | [operand] =>
      if f.has 'd' then written (r.input.filter fun c => !first.contains c)
      else if f.has 's' then written (squeeze first r.input)
      else
        .failure 1 (r.naming (octets "missing operand after " ++ inQuotes operand) ++
          octets "\nTwo strings must be given when translating." ++ tryHelp)
    | [_, _] =>
      if f.has 'd' then
        if f.has 's' then
          written (squeeze second (r.input.filter fun c => !first.contains c))
        else
          .failure 1 (r.naming (octets "extra operand " ++ inQuotes (f.operands.getLastD [])) ++
            octets "\nOnly one string may be given when deleting without squeezing repeats." ++
            tryHelp)
      else
        let first := if f.has 't' then first.take second.length else first
        let text := r.input.map (replacement first second)
        written (if f.has 's' then squeeze second text else text)
    | _ =>
      .failure 1 (r.naming (octets "extra operand " ++ inQuotes ((f.operands.drop 2).headD [])) ++
        tryHelp)

end ArenaLisp.Shell
