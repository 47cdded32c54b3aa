import ArenaLisp.Shell.Effect

/-!
# Lines in order

`sort` puts lines in order, by whole lines or by keys; `uniq` passes on one of several equal lines
that follow each other; `comm` compares two lists of lines that are in order.

## Main definitions

- `SortRule`: how keys are compared.
- `SortKey`: the part of a line that is compared.
- `Request.sort`, `Request.uniq`, `Request.comm`.
-/

namespace ArenaLisp.Shell

/-- How texts are compared: as numbers, without regard to case, without blanks in front, and in
    which direction. -/
structure SortRule where
  asNumber : Bool := false
  ignoresCase : Bool := false
  skipsBlanks : Bool := false
  isReversed : Bool := false
  deriving Repr, DecidableEq

/-- The part of a line that is compared: from a character of a field to a character of a field, both
    counted from one; a last character of zero is the end of its field. -/
structure SortKey where
  field : Nat
  char : Nat := 1
  lastField : Option Nat := none
  lastChar : Nat := 0
  rule : SortRule := {}
  deriving Repr

/-- The rule that option letters make. -/
def ruleOf (letters : Octets) : SortRule :=
  { asNumber := letters.contains 'n' || letters.contains 'g'
    ignoresCase := letters.contains 'f'
    skipsBlanks := letters.contains 'b'
    isReversed := letters.contains 'r' }

/-- A field and a character of it, with the letters that follow. -/
def keyEnd (text : Octets) : Nat × Option Nat × Octets :=
  let field := text.takeWhile Char.isDigit
  match text.drop field.length with
  | '.' :: rest =>
    let char := rest.takeWhile Char.isDigit
    (Decimal.digitsValue field, some (Decimal.digitsValue char), rest.drop char.length)
  | rest => (Decimal.digitsValue field, none, rest)

/-- The key that a text describes. -/
def keyOf (text : Octets) : SortKey :=
  let (field, char, rest) := keyEnd text
  let letters := rest.takeWhile (· ≠ ',')
  match rest.drop letters.length with
  | _ :: rest =>
    let (lastField, lastChar, more) := keyEnd rest
    { field, char := char.getD 1, lastField := some lastField, lastChar := lastChar.getD 0
      rule := ruleOf (letters ++ more) }
  | [] => { field, char := char.getD 1, rule := ruleOf letters }

/-- The fields of a line, each with the blanks in front of it; at most `fuel` of them. -/
def blankFields : Nat → Octets → List Octets
  | 0, _ => []
  | _, [] => []
  | fuel + 1, line =>
    let blanks := line.takeWhile isBlank
    let body := (line.drop blanks.length).takeWhile (!isBlank ·)
    (blanks ++ body) :: blankFields fuel (line.drop (blanks.length + body.length))

/-- The fields of a line, cut at a separator or before blanks. -/
def sortFields (separator : Option Char) (line : Octets) : List Octets :=
  match separator with
  | some c => Text.pieces [c] line
  | none => blankFields (line.length + 1) line

/-- The part of a line that a key stands for. -/
def SortKey.part (key : SortKey) (separator : Option Char) (line : Octets) : Octets :=
  let fields := sortFields separator line
  let joint : Octets := separator.toList
  let last := key.lastField.getD fields.length
  let taken := (fields.take last).drop (key.field - 1)
  let taken := match taken.getLast? with
    | some final =>
      if key.lastField.isSome && 0 < key.lastChar then
        let final := if key.rule.skipsBlanks then final.dropWhile isBlank else final
        taken.dropLast ++ [final.take key.lastChar]
      else taken
    | none => taken
  let text := List.intercalate joint taken
  let text := if key.rule.skipsBlanks then text.dropWhile isBlank else text
  text.drop (key.char - 1)

/-- The number at the start of a text, as a count of units of 10⁻⁹. -/
def leadingNumber (text : Octets) : Int :=
  let text := text.dropWhile isBlank
  let (negative, rest) := match text with
    | '-' :: rest => (true, rest)
    | rest => (false, rest)
  let whole := rest.takeWhile Char.isDigit
  let fraction := match rest.drop whole.length with
    | '.' :: rest => (rest.takeWhile Char.isDigit).take 9
    | _ => []
  let padded := fraction ++ List.replicate (9 - fraction.length) '0'
  Decimal.withSign negative (Decimal.digitsValue (whole ++ padded))

/-- The order of two texts under a rule. -/
def SortRule.order (rule : SortRule) (a b : Octets) : Ordering :=
  let trim (text : Octets) : Octets := if rule.skipsBlanks then text.dropWhile isBlank else text
  let recase (text : Octets) : Octets := if rule.ignoresCase then text.map Char.toUpper else text
  let order :=
    if rule.asNumber then compare (leadingNumber a) (leadingNumber b)
    else
      let (a, b) := (recase (trim a), recase (trim b))
      if a = b then .eq else if octetsLe a b then .lt else .gt
  if rule.isReversed then order.swap else order

/-- The order of two lines under keys: the first key that tells them apart decides. -/
def keysOrder (separator : Option Char) (keys : List SortKey) (a b : Octets) : Ordering :=
  match keys with
  | [] => .eq
  | key :: rest =>
    match key.rule.order (key.part separator a) (key.part separator b) with
    | .eq => keysOrder separator rest a b
    | order => order

/-- Lines without those that are equal to the one before them. -/
def dropRepeated (same : Octets → Octets → Bool) : List Octets → List Octets
  | a :: b :: rest =>
    if same a b then dropRepeated same (a :: rest) else a :: dropRepeated same (b :: rest)
  | lines => lines
termination_by lines => lines.length

/-- Runs of equal lines, each with its first line and its length. -/
def runs (same : Octets → Octets → Bool) (lines : List Octets) : List (Octets × Nat) :=
  (lines.foldl
    (fun (found : List (Octets × Nat)) line =>
      match found with
      | (first, count) :: rest =>
        if same first line then (first, count + 1) :: rest else (line, 1) :: found
      | [] => [(line, 1)])
    []).reverse

namespace Request

/-- The lines of all operands in order. -/
def sort (r : Request) : Effect :=
  r.withFlags "nrufbsgcCm" "ktoS" 2 fun f =>
    let letters := f.options.map (·.1)
    let rule := ruleOf letters
    let keys := f.options.filterMap fun (option, value) =>
      if option = 'k' then some (keyOf value) else none
    let keys := keys.map fun key => if key.rule = {} then { key with rule } else key
    let separator := (f.value? 't').bind fun text =>
      if text = ['\\', 't'] then some '\t' else text.head?
    let keyed (a b : Octets) : Ordering :=
      if keys.isEmpty then rule.order a b else keysOrder separator keys a b
    let isStable := f.has 's' || f.has 'u'
    let order (a b : Octets) : Ordering :=
      match keyed a b with
      | .eq => if isStable then .eq else { isReversed := rule.isReversed : SortRule }.order a b
      | order => order
    let found := r.contents f.operands fun operand fault =>
      match fault with
      | .isDirectory _ => octets "read failed: " ++ operand ++ octets ": Is a directory"
      | _ => octets "cannot read: " ++ operand ++ octets ": " ++ reason fault
    match found.find? fun text => !text.isOk with
    | some (.error message) =>
      { chunks := [(true, message)], status := 2, usesInput := namesInput f.operands }
    | _ =>
      let lines := found.flatMap fun
        | .ok (_, text) => linesOf text
        | .error _ => []
      let sorted := lines.mergeSort fun a b => order a b ≠ .gt
      let sorted := if f.has 'u' then dropRepeated (fun a b => keyed a b = .eq) sorted else sorted
      let isSorted := lines = sorted
      let effect : Effect := { usesInput := namesInput f.operands }
      if f.has 'c' || f.has 'C' then { effect with status := if isSorted then 0 else 1 }
      else
        match f.value? 'o' with
        | some target =>
          match r.files.write (r.path target) (bytesOf (unlines sorted)) with
          | .ok files => { effect with files := some files }
          | .error fault =>
            .failure 2 (r.naming (octets "open failed: " ++ target ++ octets ": " ++ reason fault))
        | none => { effect with chunks := [(false, unlines sorted)] }

/-- One of several equal lines that follow each other. -/
def uniq (r : Request) : Effect :=
  r.withFlags "cdui" "fsw" 1 fun f =>
    let number (option : Char) : Nat := ((f.value? option).map Decimal.digitsValue).getD 0
    let skipField (text : Octets) : Octets := (text.dropWhile isBlank).dropWhile (!isBlank ·)
    let key (line : Octets) : Octets :=
      let line := (List.range (number 'f')).foldl (fun text _ => skipField text) line
      let line := line.drop (number 's')
      let line := if (f.value? 'w').isSome then line.take (number 'w') else line
      if f.has 'i' then line.map Char.toLower else line
    let wanted (count : Nat) : Bool :=
      (!f.has 'd' || 1 < count) && (!f.has 'u' || count = 1)
    r.together (f.operands.take 1) 1 plainComplaint fun texts =>
      let found := runs (fun a b => key a = key b) (linesOf texts.flatten)
      unlines ((found.filter fun (_, count) => wanted count).map fun (line, count) =>
        if f.has 'c' then padLeft 7 (digits count) ++ ' ' :: line else line)

/-- Two lists of lines merged: each line with the column in which it is shown.  `fuel` bounds their
    number. -/
def merged : Nat → List Octets → List Octets → List (Nat × Octets)
  | 0, _, _ => []
  | _, [], bs => bs.map (2, ·)
  | _, as, [] => as.map (1, ·)
  | fuel + 1, a :: as, b :: bs =>
    if a = b then (3, a) :: merged fuel as bs
    else if octetsLe a b then (1, a) :: merged fuel as (b :: bs)
    else (2, b) :: merged fuel (a :: as) bs

/-- The lines of two operands in three columns: those of the first, of the second and of both. -/
def comm (r : Request) : Effect :=
  r.withFlags "123" "" 1 fun f =>
    match f.operands with
    | [_, _] =>
      r.together f.operands 1 plainComplaint fun texts =>
        let lists := texts.map linesOf
        let (first, second) := (lists.headD [], (lists.drop 1).headD [])
        let shown (column : Nat) : Bool := !f.has (Char.ofNat (column + '0'.toNat))
        let tabs (column : Nat) : Nat :=
          ((List.range column).filter fun n => 0 < n && shown n).length
        unlines ((merged (first.length + second.length) first second).filterMap
          fun (column, line) =>
            if shown column then some (List.replicate (tabs column) '\t' ++ line) else none)
    | operands =>
      .failure 1 (r.naming (octets (if operands.isEmpty then "missing operand"
        else "missing operand after ") ++ (operands.head?.map inQuotes).getD []) ++
        octets "\nTry 'comm --help' for more information.")

end Request

end ArenaLisp.Shell
