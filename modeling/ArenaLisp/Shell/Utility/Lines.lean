import ArenaLisp.Shell.Effect

/-!
# Texts line by line

Utilities that pass on lines of their operands, number them, count them, turn them around or put
them side by side.

## Main definitions

- `rawLines`: the lines of a text, each with its line feed.
- `Request.cat`, `Request.head`, `Request.tail`, `Request.tac`, `Request.rev`: lines passed on.
- `Request.nl`, `Request.wc`: lines numbered and counted.
- `Request.paste`, `Request.fold`: lines put together and cut.
- `Request.seq`: lines made of numbers.
-/

namespace ArenaLisp.Shell

/-- The lines of a text, each with its line feed; the last one may have none. -/
def rawLines (text : Octets) : List Octets :=
  let (last, lines) := text.foldr
    (fun c (current, lines) =>
      if c = '\n' then ([c], if current.isEmpty then lines else current :: lines)
      else (c :: current, lines))
    (([], []) : Octets × List Octets)
  if last.isEmpty then lines else last :: lines

/-- A number in a column of six places. -/
def numbered (n : Nat) : Octets := padLeft 6 (digits n) ++ ['\t']

/-- Lines in which empty ones do not follow each other. -/
def squeezeEmpty (lines : List Octets) : List Octets :=
  lines.foldr
    (fun line kept => if line = ['\n'] && kept.head? = some ['\n'] then kept else line :: kept) []

/-- A byte in visible characters: a hat for control characters, `M-` for the upper half. -/
def visible (code : Nat) : Octets :=
  let low := code % 128
  (if 128 ≤ code then ['M', '-'] else []) ++
    if low < 32 then ['^', Char.ofNat (low + 64)]
    else if low = 127 then ['^', '?']
    else [Char.ofNat low]

/-- Lines with numbers in front; empty ones may go without. -/
def numberLines (skipsEmpty : Bool) : Nat → List Octets → Octets
  | _, [] => []
  | n, line :: rest =>
    if skipsEmpty && line = ['\n'] then line ++ numberLines skipsEmpty n rest
    else numbered n ++ line ++ numberLines skipsEmpty (n + 1) rest

namespace Request

/-- The operands one after the other, with numbers or marks if options ask for them. -/
def cat (r : Request) : Effect :=
  r.withFlags "nbsEuAeTtv" "" 1 fun f =>
    if f.options.isEmpty then r.perFile f.operands 1 plainComplaint fun _ text => text
    else
      r.together f.operands 1 plainComplaint fun texts =>
        let lines := rawLines texts.flatten
        let lines := if f.has 's' then squeezeEmpty lines else lines
        let marked (line : Octets) : Octets :=
          line.flatMap fun c =>
            if c = '\n' then if f.has 'E' || f.has 'A' || f.has 'e' then ['$', '\n'] else [c]
            else if c = '\t' then
              if f.has 'T' || f.has 'A' || f.has 't' then ['^', 'I'] else [c]
            else if f.has 'v' || f.has 'A' || f.has 'e' || f.has 't' then visible c.toNat
            else [c]
        let lines := lines.map marked
        if f.has 'b' then numberLines true 1 lines
        else if f.has 'n' then numberLines false 1 lines
        else lines.flatten

/-! ## Ends -/

/-- A number of lines or bytes: how many, and a sign in front that changes what is counted. -/
structure Amount where
  sign : Option Char := none
  count : Nat

/-- The amount that a text stands for. -/
def amount? (text : Octets) : Option Amount :=
  let (sign, rest) : Option Char × Octets := match text with
    | '-' :: rest => (some '-', rest)
    | '+' :: rest => (some '+', rest)
    | rest => (none, rest)
  let found := rest.takeWhile Char.isDigit
  let factor? : Option Nat := match String.ofList (rest.drop found.length) with
    | "" => some 1
    | "b" => some 512
    | "k" | "K" => some 1024
    | _ => none
  match factor? with
  | some factor =>
    if found.isEmpty then none else some ⟨sign, Decimal.digitsValue found * factor⟩
  | none => none

/-- Arguments in which a number behind a hyphen is spelled out as an option. -/
def spellOut (args : List Octets) : List Octets :=
  match args with
  | ('-' :: c :: rest) :: others =>
    if c.isDigit && rest.all Char.isDigit then ['-', 'n'] :: (c :: rest) :: others else args
  | _ => args

/-- A text under a title, if there is one. -/
def underTitle (isTitled isFirst : Bool) (operand text : Octets) : Octets :=
  if isTitled then
    (if isFirst then [] else ['\n']) ++ octets "==> " ++
      (if operand = ['-'] then octets "standard input" else operand) ++ octets " <==\n" ++ text
  else text

/-- A part of each operand, chosen by a number of lines or bytes, under titles if there are
    several. -/
def endOf (r : Request) (choose : Amount → List Octets → Octets) : Effect :=
  match flags "qvf" "nc" (spellOut r.args) with
  | .error fault => r.refuseFlags 1 fault
  | .ok f =>
    let bytes := f.value? 'c'
    let given := bytes <|> f.value? 'n'
    match amount? (given.getD ['1', '0']) with
    | none =>
      .failure 1 (r.naming (octets "invalid number of " ++
        octets (if bytes.isSome then "bytes: " else "lines: ") ++ inQuotes (given.getD [])))
    | some amount =>
      let isTitled := (1 < f.operands.length && !f.has 'q') || f.has 'v'
      let first := (if f.operands.isEmpty then [['-']] else f.operands).find? fun operand =>
        (r.read operand).isOk
      r.perFile f.operands 1 openComplaint fun operand text =>
        underTitle isTitled (some operand = first) operand
          (choose amount (if bytes.isSome then text.map ([·]) else rawLines text))

/-- The first lines or bytes, or all but the last ones. -/
def head (r : Request) : Effect :=
  r.endOf fun amount units =>
    if amount.sign = some '-' then (units.take (units.length - amount.count)).flatten
    else (units.take amount.count).flatten

/-- The last lines or bytes, or all from one on. -/
def tail (r : Request) : Effect :=
  r.endOf fun amount units =>
    if amount.sign = some '+' then (units.drop (amount.count - 1)).flatten
    else (units.drop (units.length - amount.count)).flatten

/-- The lines in reverse order. -/
def tac (r : Request) : Effect :=
  r.withFlags "" "" 1 fun f =>
    r.perFile f.operands 1
      (fun operand fault =>
        match fault with
        | .isDirectory _ => operand ++ octets ": read error: Is a directory"
        | _ =>
          octets "failed to open " ++ inQuotes operand ++ octets " for reading: " ++ reason fault)
      fun _ text => (rawLines text).reverse.flatten

/-- Each line from its end to its start. -/
def rev (r : Request) : Effect :=
  r.withFlags "" "" 1 fun f =>
    r.perFile f.operands 1
      (fun operand fault => octets "cannot open " ++ operand ++ octets ": " ++ reason fault)
      fun _ text =>
        (rawLines text).flatMap fun line =>
          if line.getLast? = some '\n' then line.dropLast.reverse ++ ['\n'] else line.reverse

/-! ## Numbers -/

/-- Lines with numbers, except for empty ones unless all are asked for. -/
def nl (r : Request) : Effect :=
  r.withFlags "p" "bwsvinfhd" 1 fun f =>
    let all := f.value? 'b' = some ['a']
    let width := ((f.value? 'w').map Decimal.digitsValue).getD 6
    let separator := (f.value? 's').getD ['\t']
    let start := ((f.value? 'v').map Decimal.digitsValue).getD 1
    let step := ((f.value? 'i').map Decimal.digitsValue).getD 1
    r.together f.operands 1 plainComplaint fun texts =>
      ((linesOf texts.flatten).foldl
        (fun (n, written) line =>
          if line.isEmpty && !all then
            (n, written ++ List.replicate (width + separator.length) ' ' ++ ['\n'])
          else (n + step, written ++ padLeft width (digits n) ++ separator ++ line ++ ['\n']))
        ((start, []) : Nat × Octets)).2

/-- The number of words of a text: runs without blanks that hold a printable character. -/
def wordCount : Bool → Octets → Nat
  | _, [] => 0
  | inWord, c :: rest =>
    if isSpace c then wordCount false rest
    else if !inWord && 32 < c.toNat && c.toNat < 127 then 1 + wordCount true rest
    else wordCount inWord rest

/-- The counts that options ask for: lines, words, characters, bytes and the longest line. -/
def counts (f : Flags) (text : Octets) : List Nat :=
  let all := f.options.isEmpty
  let pick (option : Char) (count : Nat) : List Nat :=
    if f.has option || (all && option ≠ 'm' && option ≠ 'L') then [count] else []
  pick 'l' (text.count '\n') ++ pick 'w' (wordCount false text) ++ pick 'm' text.length ++
    pick 'c' text.length ++ pick 'L' (((linesOf text).map List.length).foldl max 0)

/-- Counts lines, words and bytes.  A single count stands alone; several are put into columns that
    are wide enough for the sizes of the files, or for seven places if not all are files. -/
def wc (r : Request) : Effect :=
  r.withFlags "lwcmL" "" 1 fun f =>
    let found := r.contents f.operands plainComplaint
    let directories := f.operands.filter fun operand => r.files.isDirectory (r.path operand)
    let sizes := found.filterMap fun
      | .ok (operand, text) => some (operand, text)
      | .error _ => none
    let total := (sizes.map fun (_, text) => text.length).foldl (· + ·) 0
    let isFile (operand : Octets) : Bool :=
      if operand = ['-'] then r.inputIsFile else r.path operand ≠ "/dev/null"
    let isSingle := f.operands.length ≤ 1 && (counts f []).length = 1
    let width :=
      if isSingle then 1
      else
        let allFiles := directories.isEmpty && sizes.all fun (operand, _) => isFile operand
        max (digits total).length (if allFiles then 1 else 7)
    let row (numbers : List Nat) (name : Octets) : Octets :=
      List.intercalate [' '] (numbers.map fun n => padLeft width (digits n)) ++
        (if name.isEmpty then [] else ' ' :: name) ++ ['\n']
    let rowsOf (operand : Octets) : Except Octets (Octets × Octets) → List (Bool × Octets)
      | .ok (_, text) => [(false, row (counts f text) operand)]
      | .error message =>
        if directories.contains operand then [(true, message), (false, row (counts f []) operand)]
        else [(true, message)]
    let rows := (List.zipWith rowsOf (f.operands ++ [[]]) found).flatten
    let sums := sizes.foldl
      (fun sums (_, text) => List.zipWith (· + ·) sums (counts f text))
      ((counts f []).map fun _ => 0)
    { chunks := rows ++ if 1 < f.operands.length then [(false, row sums (octets "total"))] else []
      status := if found.all Except.isOk then 0 else 1
      usesInput := namesInput f.operands }

/-! ## Columns -/

/-- Lists side by side, with separators taken in turn; at most `fuel` rows. -/
def sideBySide (separators : Octets) : Nat → List (List Octets) → Octets
  | 0, _ => []
  | fuel + 1, columns =>
    if columns.all List.isEmpty then []
    else
      let cells := columns.map fun column => column.headD []
      let joined := (cells.foldl
        (fun (index, text) cell =>
          (index + 1,
            if index = 0 then cell
            else text ++ (separators[(index - 1) % max separators.length 1]?).toList ++ cell))
        ((0, []) : Nat × Octets)).2
      joined ++ '\n' :: sideBySide separators fuel (columns.map List.tail)

/-- The first of every so many items. -/
def everyNth (n : Nat) (items : List α) : List α :=
  ((List.range items.length).zip items).filterMap fun (place, item) =>
    if place % max n 1 = 0 then some item else none

/-- The lines of the operands side by side, or those of each operand in one line. -/
def paste (r : Request) : Effect :=
  r.withFlags "s" "d" 1 fun f =>
    let separators := ((f.value? 'd').map fun text =>
      if text = ['\\', 'n'] then ['\n'] else if text = ['\\', 't'] then ['\t']
      else if text = ['\\', '0'] then [] else text).getD ['\t']
    let inputs := (f.operands.filter (· = ['-'])).length
    let shared := fun (texts : List Octets) => (f.operands.zip texts).foldl
      (fun (taken, columns) (operand, text) =>
        if operand = ['-'] && !f.has 's' then
          (taken + 1, columns ++ [everyNth inputs ((linesOf text).drop taken)])
        else (taken, columns ++ [linesOf text]))
      ((0, []) : Nat × List (List Octets))
    r.together f.operands 1 plainComplaint fun texts =>
      let columns := if 1 < inputs then (shared texts).2 else texts.map linesOf
      let rows := (columns.map List.length).foldl max 0
      if f.has 's' then
        columns.flatMap fun column => sideBySide separators 1 (column.map ([·]))
      else sideBySide separators rows columns

/-- A line cut into pieces of a given width; at most `fuel` of them. -/
def cutLine (width : Nat) : Nat → Octets → List Octets
  | 0, line => [line]
  | fuel + 1, line =>
    if line.length ≤ width then [line] else line.take width :: cutLine width fuel (line.drop width)

/-- Lines cut at a given width. -/
def fold (r : Request) : Effect :=
  r.withFlags "bs" "w" 1 fun f =>
    let width := max 1 (((f.value? 'w').map Decimal.digitsValue).getD 80)
    r.perFile f.operands 1 plainComplaint fun _ text =>
      (rawLines text).flatMap fun line =>
        let body := line.filter (· ≠ '\n')
        List.intercalate ['\n'] (cutLine width body.length body) ++
          (if line.getLast? = some '\n' then ['\n'] else [])

/-! ## Sequences -/

/-- A decimal: an integer that counts a number of places. -/
structure Scaled where
  value : Int
  places : Nat

/-- The decimal that a text stands for. -/
def scaled? (text : Octets) : Option Scaled :=
  let (negative, rest) := Decimal.splitSign text
  let whole := rest.takeWhile Char.isDigit
  let fraction? : Option Octets := match rest.drop whole.length with
    | [] => some []
    | '.' :: fraction => if fraction.all Char.isDigit then some fraction else none
    | _ => none
  match fraction? with
  | some fraction =>
    if whole.isEmpty && fraction.isEmpty then none
    else some ⟨Decimal.withSign negative (Decimal.digitsValue (whole ++ fraction)), fraction.length⟩
  | none => none

/-- The decimal in units of more places. -/
def Scaled.at (s : Scaled) (places : Nat) : Int := s.value * Nat.pow 10 (places - s.places)

/-- The text of an integer that counts a number of places. -/
def scaledText (places : Nat) (n : Int) : Octets :=
  let found := digits n.natAbs
  let found := List.replicate (places + 1 - found.length) '0' ++ found
  let cut := found.length - places
  (if n < 0 then ['-'] else []) ++
    if places = 0 then found else found.take cut ++ '.' :: found.drop cut

/-- The most numbers that are written. -/
def sequenceLimit : Nat := 100000

/-- The numbers from one to another in steps. -/
def seq (r : Request) : Effect :=
  let isNumber (arg : Octets) : Bool := (scaled? arg).isSome
  let isOption (arg : Octets) : Bool := arg.head? = some '-' && !isNumber arg
  let (options, numbers) : List Octets × List Octets :=
    match r.args with
    | ['-', 's'] :: separator :: rest => ([['-', 's'] ++ separator], rest)
    | args => (args.takeWhile isOption, args.dropWhile isOption)
  let separator := ((options.find? fun o => (octets "-s").isPrefixOf o).map (·.drop 2)).getD ['\n']
  let hasWidth := options.contains ['-', 'w']
  match numbers.find? fun n => !isNumber n with
  | some bad =>
    .failure 1 (r.naming (octets "invalid floating point argument: " ++ inQuotes bad) ++
      octets "\nTry 'seq --help' for more information.")
  | none =>
    let one : Scaled := ⟨1, 0⟩
    let (first, step, last) : Scaled × Scaled × Option Scaled :=
      match numbers.filterMap scaled? with
      | [last] => (one, one, some last)
      | [first, last] => (first, one, some last)
      | [first, step, last] => (first, step, some last)
      | _ => (one, one, none)
    match last with
    | none =>
      let problem := if numbers.isEmpty then "missing operand" else "extra operand"
      .failure 1 (r.naming (octets problem) ++
        octets "\nTry 'seq --help' for more information.")
    | some last =>
      let places := max first.places step.places
      let fine := max places last.places
      let (a, d, z) := (first.at fine, step.at fine, last.at fine)
      if d = 0 then
        .failure 1 (r.naming (octets "invalid Zero increment value: " ++ inQuotes ['0']) ++
          octets "\nTry 'seq --help' for more information.")
      else
        let count := if (0 < d ∧ z < a) ∨ (d < 0 ∧ a < z) then 0 else (Int.fdiv (z - a) d).toNat + 1
        let values := (List.range (min count sequenceLimit)).map fun (i : Nat) =>
          scaledText places (first.at places + (i : Int) * step.at places)
        let width := if hasWidth then (values.map List.length).foldl max 0 else 0
        let widened (text : Octets) : Octets :=
          let sign := text.takeWhile (· = '-')
          sign ++ List.replicate (width - text.length) '0' ++ text.drop sign.length
        .output (if values.isEmpty then []
          else List.intercalate separator (values.map widened) ++ ['\n'])

end Request

end ArenaLisp.Shell
