import ArenaLisp.Shell.Regex
import ArenaLisp.Shell.Utility.Lines

/-!
# Editing lines

`sed` takes its input line by line and applies a program to each line: commands with addresses that
tell on which lines they work.

## Main definitions

- `Editor.Address`, `Editor.Action`, `Editor.Instruction`: a program.
- `Editor.read`: the program that a text stands for.
- `Editor.substitute`: matches replaced in a text.
- `Editor.State`, `Editor.cycle`: the work on one line.
- `Request.sed`.
-/

namespace ArenaLisp.Shell

namespace Editor

/-! ## Programs -/

/-- A line: by number, the last one, by a match, or every so many lines from a first one on. -/
inductive Address where
  | line (number : Nat)
  | last
  | matching (expression : Regex) (ignoresCase : Bool)
  | every (first step : Nat)
  | further (count : Nat)

/-- A part of a replacement: a text, or what a group took. -/
inductive Insert where
  | text (text : Octets)
  | group (number : Nat)

/-- What is done with a line. -/
inductive Action where
  | blockStart
  | blockEnd
  | substitute (expression : Regex) (ignoresCase : Bool) (inserts : List Insert)
      (isGlobal : Bool) (number : Nat) (prints : Bool)
  | exchange (first second : Octets)
  | delete
  | deleteFirstLine
  | print
  | printFirstLine
  | lineNumber
  | quit (prints : Bool) (status : Nat)
  | append (text : Octets)
  | insert (text : Octets)
  | change (text : Octets)
  | next
  | joinNext
  | hold (adds : Bool)
  | fetch (adds : Bool)
  | swap
  | label (name : Octets)
  | jump (onlyIfChanged : Bool) (name : Octets)

/-- A command with its addresses. -/
structure Instruction where
  first : Option Address := none
  second : Option Address := none
  isNegated : Bool := false
  action : Action

/-! ## Reading -/

/-- A text up to a delimiter, and what follows it.  A backslash takes the meaning from a delimiter;
    a line feed can be written as a letter. -/
def upTo (delimiter : Char) : Octets → Option (Octets × Octets)
  | [] => none
  | '\\' :: c :: rest =>
    (upTo delimiter rest).map fun (text, rest) =>
      (if c = delimiter then c :: text else '\\' :: c :: text, rest)
  | c :: rest =>
    if c = delimiter then some ([], rest)
    else (upTo delimiter rest).map fun (text, rest) => (c :: text, rest)

/-- The parts of a replacement. -/
def inserts : Octets → List Insert
  | [] => []
  | '&' :: rest => .group 0 :: inserts rest
  | '\\' :: c :: rest =>
    if c.isDigit then .group (c.toNat - '0'.toNat) :: inserts rest
    else if c = 'n' then .text ['\n'] :: inserts rest
    else if c = 't' then .text ['\t'] :: inserts rest
    else .text [c] :: inserts rest
  | c :: rest => .text [c] :: inserts rest

/-- The number at the start of a text, and what follows it. -/
def number? (text : Octets) : Option (Nat × Octets) :=
  let found := text.takeWhile Char.isDigit
  if found.isEmpty then none else some (Decimal.digitsValue found, text.drop found.length)

/-- The address at the start of a text, and what follows it. -/
def address? (dialect : Regex.Dialect) (text : Octets) : Option (Option Address × Octets) :=
  let expression (delimiter : Char) (rest : Octets) : Option (Option Address × Octets) :=
    match upTo delimiter rest with
    | some (pattern, rest) =>
      match Regex.read dialect pattern, rest with
      | some r, 'I' :: rest => some (some (.matching r true), rest)
      | some r, rest => some (some (.matching r false), rest)
      | none, _ => none
    | none => none
  match text with
  | '$' :: rest => some (some .last, rest)
  | '/' :: rest => expression '/' rest
  | '\\' :: c :: rest => expression c rest
  | '+' :: rest =>
    match number? rest with
    | some (n, rest) => some (some (.further n), rest)
    | none => none
  | _ =>
    match number? text with
    | some (n, '~' :: rest) =>
      match number? rest with
      | some (step, rest) => some (some (.every n step), rest)
      | none => none
    | some (n, rest) => some (some (.line n), rest)
    | none => some (none, text)

/-- The options of a substitution: whether all matches are replaced, from which one on, whether the
    result is printed, whether case does not matter, and what follows. -/
structure SubstituteOptions where
  isGlobal : Bool := false
  number : Nat := 1
  prints : Bool := false
  ignoresCase : Bool := false
  rest : Octets := []

/-- Reads the options of a substitution; at most `fuel` characters. -/
def substituteOptions (o : SubstituteOptions) : Nat → Octets → SubstituteOptions
  | 0, rest => { o with rest }
  | fuel + 1, text =>
    match text with
    | 'g' :: rest => substituteOptions { o with isGlobal := true } fuel rest
    | 'p' :: rest => substituteOptions { o with prints := true } fuel rest
    | 'i' :: rest => substituteOptions { o with ignoresCase := true } fuel rest
    | 'I' :: rest => substituteOptions { o with ignoresCase := true } fuel rest
    | _ =>
      match number? text with
      | some (number, rest) => substituteOptions { o with number } fuel rest
      | none => { o with rest := text }

/-- The text of a command that adds lines, and what follows it. -/
def textArgument (text : Octets) : Octets × Octets :=
  let text := text.dropWhile isBlank
  let text := match text with
    | '\\' :: '\n' :: rest => rest
    | '\\' :: rest => rest.dropWhile isBlank
    | rest => rest
  let rec lines : Octets → Octets × Octets
    | [] => ([], [])
    | '\n' :: rest => ([], rest)
    | '\\' :: c :: rest =>
      let (text, rest) := lines rest
      (c :: text, rest)
    | c :: rest =>
      let (text, rest) := lines rest
      (c :: text, rest)
  let (found, rest) := lines text
  (found ++ ['\n'], rest)

/-- The name of a label, and what follows it. -/
def labelName (text : Octets) : Octets × Octets :=
  let text := text.dropWhile isBlank
  let name := text.takeWhile fun c => c ≠ '\n' && c ≠ ';' && c ≠ '\x7d'
  ((name.reverse.dropWhile isSpace).reverse, text.drop name.length)

/-- The action at the start of a text, and what follows it. -/
def action? (dialect : Regex.Dialect) : Octets → Option (Action × Octets)
  | [] => none
  | 's' :: delimiter :: rest => do
    let (pattern, rest) ← upTo delimiter rest
    let (replacement, rest) ← upTo delimiter rest
    let r ← Regex.read dialect pattern
    let o := substituteOptions {} rest.length rest
    return (.substitute r o.ignoresCase (inserts replacement) o.isGlobal o.number o.prints, o.rest)
  | 'y' :: delimiter :: rest => do
    let (first, rest) ← upTo delimiter rest
    let (second, rest) ← upTo delimiter rest
    if first.length = second.length then return (.exchange first second, rest) else none
  | c :: rest =>
    let withText (make : Octets → Action) : Option (Action × Octets) :=
      let (text, rest) := textArgument rest
      some (make text, rest)
    let withLabel (make : Octets → Action) : Option (Action × Octets) :=
      let (name, rest) := labelName rest
      some (make name, rest)
    let withStatus (prints : Bool) : Option (Action × Octets) :=
      let (status, rest) := (number? (rest.dropWhile isBlank)).getD (0, rest)
      some (.quit prints status, rest)
    match c with
    | '\x7b' => some (.blockStart, rest)
    | '\x7d' => some (.blockEnd, rest)
    | 'd' => some (.delete, rest)
    | 'D' => some (.deleteFirstLine, rest)
    | 'p' => some (.print, rest)
    | 'P' => some (.printFirstLine, rest)
    | '=' => some (.lineNumber, rest)
    | 'q' => withStatus true
    | 'Q' => withStatus false
    | 'a' => withText .append
    | 'i' => withText .insert
    | 'c' => withText .change
    | 'n' => some (.next, rest)
    | 'N' => some (.joinNext, rest)
    | 'h' => some (.hold false, rest)
    | 'H' => some (.hold true, rest)
    | 'g' => some (.fetch false, rest)
    | 'G' => some (.fetch true, rest)
    | 'x' => some (.swap, rest)
    | ':' => withLabel .label
    | 'b' => withLabel (.jump false)
    | 't' => withLabel (.jump true)
    | _ => none

/-- The instruction at the start of a text, and what follows it. -/
def instruction? (dialect : Regex.Dialect) (text : Octets) : Option (Instruction × Octets) := do
  let (first, rest) ← address? dialect text
  let (second, rest) ← match first, rest.dropWhile isBlank with
    | some _, ',' :: rest => address? dialect (rest.dropWhile isBlank)
    | _, rest => some (none, rest)
  let rest := rest.dropWhile isBlank
  let (isNegated, rest) := match rest with
    | '!' :: rest => (true, rest.dropWhile isBlank)
    | rest => (false, rest)
  let (action, rest) ← action? dialect rest
  return ({ first, second, isNegated, action }, rest)

/-- The instructions of a program of at most `fuel` characters. -/
def readFrom (dialect : Regex.Dialect) : Nat → Octets → Option (List Instruction)
  | 0, _ => none
  | fuel + 1, text =>
    let text := text.dropWhile fun c => isSpace c || c = ';'
    if text.isEmpty then some []
    else if text.head? = some '#' then readFrom dialect fuel (text.dropWhile (· ≠ '\n'))
    else do
      let (instruction, rest) ← instruction? dialect text
      let more ← readFrom dialect fuel rest
      return instruction :: more

/-- The program that a text stands for. -/
def read (dialect : Regex.Dialect) (text : Octets) : Option (Array Instruction) :=
  (readFrom dialect (text.length + 1) text).map List.toArray

/-! ## Substitution -/

/-- The text of a replacement for a match. -/
def replacementText (inserts : List Insert) (start stop : Regex.Spot) : Octets :=
  inserts.flatMap fun
    | .text text => text
    | .group number => Regex.groupText start stop number

/-- Matches replaced from a place on, and whether any was: those with a number of at least `wanted`,
    or only that one.  An empty match directly behind another match is none, which is what `behind`
    tells; `fuel` bounds the number of matches. -/
def substituteFrom (r : Regex) (ignoresCase : Bool) (inserts : List Insert) (isGlobal : Bool)
    (wanted : Nat) : Nat → Nat → Bool → Regex.Spot → Octets × Bool
  | 0, _, _, s => (s.rest, false)
  | fuel + 1, count, behind, s =>
    let copyOne (s : Regex.Spot) (count : Nat) : Octets × Bool :=
      match s.step? with
      | none => ([], false)
      | some (c, next) =>
        let (text, changed) :=
          substituteFrom r ignoresCase inserts isGlobal wanted fuel count false next
        (c :: text, changed)
    match r.firstFrom ignoresCase (s.rest.length + 1) s with
    | none => (s.rest, false)
    | some (start, stop) =>
      let skipped := s.rest.take (start.taken - s.taken)
      let isEmpty := stop.taken = start.taken
      if isEmpty && behind && skipped.isEmpty then copyOne s count
      else
        let count := count + 1
        let isWanted := count = wanted || (isGlobal && wanted ≤ count)
        let here :=
          if isWanted then replacementText inserts start stop
          else start.rest.take (stop.taken - start.taken)
        if isWanted && !isGlobal then (skipped ++ here ++ stop.rest, true)
        else
          let (text, changed) :=
            if isEmpty then copyOne stop count
            else substituteFrom r ignoresCase inserts isGlobal wanted fuel count true stop
          (skipped ++ here ++ text, isWanted || changed)

/-- Matches replaced in a text, and whether any was. -/
def substitute (r : Regex) (ignoresCase : Bool) (inserts : List Insert) (isGlobal : Bool)
    (wanted : Nat) (text : Octets) : Octets × Bool :=
  substituteFrom r ignoresCase inserts isGlobal wanted (2 * text.length + 2) 0 false
    { rest := text }

/-! ## Running -/

/-- The state of an editor: the line at hand and a text held aside, the number of the line and the
    lines left, what was written and what is written behind the line, the ranges that are active
    with the lines on which they end, and whether something was replaced in this line. -/
structure State where
  pattern : Octets := []
  held : Octets := []
  number : Nat := 0
  rest : List Octets := []
  output : Octets := []
  behind : Octets := []
  active : List (Nat × Option Nat) := []
  isChanged : Bool := false
  lacksFeed : Bool := false
  awaitsFeed : Bool := false
  hasQuit : Bool := false
  status : Nat := 0

namespace State

/-- A line written.  The last line has no line feed if it came without one. -/
def write (s : State) (line : Octets) : State :=
  let output := s.output ++ (if s.awaitsFeed then ['\n'] else []) ++ line
  if s.lacksFeed && s.rest.isEmpty then { s with output, awaitsFeed := true }
  else { s with output := output ++ ['\n'], awaitsFeed := false }

/-- A text written that ends its own lines. -/
def writeText (s : State) (text : Octets) : State :=
  { s with
    output := s.output ++ (if s.awaitsFeed then ['\n'] else []) ++ text
    awaitsFeed := false }

/-- What is to be written behind a line written. -/
def flush (s : State) : State :=
  if s.behind.isEmpty then s else { s.writeText s.behind with behind := [] }

/-- The next line taken in. -/
def advance (s : State) (join : Octets → Octets) : State :=
  match s.rest with
  | [] => s
  | line :: rest => { s with pattern := join line, number := s.number + 1, rest }

end State

/-- Whether an address names the line at hand. -/
def Address.holds (s : State) : Address → Bool
  | .line number => s.number = number
  | .last => s.rest.isEmpty
  | .matching r ignoresCase => (r.first ignoresCase s.pattern).isSome
  | .every first step => if step = 0 then s.number = first
      else first ≤ s.number && (s.number - first) % step = 0
  | .further _ => false

/-- Whether an instruction works on the line at hand, and the state in which ranges have been
    started and ended. -/
def selects (s : State) (place : Nat) (i : Instruction) : Bool × State :=
  let without := s.active.filter fun (other, _) => other ≠ place
  match i.first, i.second with
  | none, _ => (true, s)
  | some first, none => (first.holds s, s)
  | some first, some second =>
    match s.active.find? fun (other, _) => other = place with
    | some (_, stop) =>
      match stop, second with
      | some n, _ =>
        if n < s.number then (first.holds s, { s with active := without })
        else (true, { s with active := if s.number = n then without else s.active })
      | none, second => (true, { s with active := if second.holds s then without else s.active })
    | none =>
      if first.holds s then
        let stop : Option Nat := match second with
          | .line n => some n
          | .further n => some (s.number + n)
          | _ => none
        if stop.any (· ≤ s.number) then (true, s)
        else (true, { s with active := (place, stop) :: s.active })
      else (false, s)

/-- The place behind the block that starts at a place; `depth` counts the blocks that are open. -/
def blockEndFrom (program : Array Instruction) : Nat → Nat → Nat → Nat
  | 0, _, place => place
  | fuel + 1, depth, place =>
    match program[place]? with
    | none => place
    | some i =>
      match i.action with
      | .blockStart => blockEndFrom program fuel (depth + 1) (place + 1)
      | .blockEnd =>
        if depth ≤ 1 then place + 1 else blockEndFrom program fuel (depth - 1) (place + 1)
      | _ => blockEndFrom program fuel depth (place + 1)

/-- The place of a label; an empty or unknown one stands for the end of the program. -/
def labelPlace (program : Array Instruction) (name : Octets) : Nat :=
  let isLabel (i : Instruction) : Bool :=
    match i.action with
    | .label other => other = name
    | _ => false
  if name.isEmpty then program.size else (program.findIdx? isLabel).getD program.size

/-- How the work on a line ends: at the end of the program, without a last print, or by starting
    over with what is left of the line. -/
inductive Ending where
  | finished
  | deleted
  | restarted

/-- The work of a program on the line at hand from a place on; at most `fuel` steps. -/
def runFrom (quiet : Bool) (program : Array Instruction) : Nat → Nat → State → Ending × State
  | 0, _, s => (.deleted, { s with hasQuit := true })
  | fuel + 1, place, s =>
    match program[place]? with
    | none => (.finished, s)
    | some i =>
      let (holds, s) := selects s place i
      let goOn (s : State) : Ending × State := runFrom quiet program fuel (place + 1) s
      if holds = i.isNegated then
        match i.action with
        | .blockStart =>
          runFrom quiet program fuel (blockEndFrom program program.size 0 place) s
        | _ => goOn s
      else
        match i.action with
        | .blockStart | .blockEnd | .label _ => goOn s
        | .substitute r ignoresCase inserts isGlobal number prints =>
          let (text, changed) := substitute r ignoresCase inserts isGlobal number s.pattern
          let s := if changed then { s with pattern := text, isChanged := true } else s
          goOn (if changed && prints then s.write s.pattern else s)
        | .exchange first second =>
          goOn { s with pattern := s.pattern.map fun c =>
            match first.findIdx? (· = c) with
            | some n => second.getD n c
            | none => c }
        | .delete => (.deleted, s)
        | .deleteFirstLine =>
          if s.pattern.contains '\n' then
            (.restarted, { s with pattern := (s.pattern.dropWhile (· ≠ '\n')).drop 1 })
          else (.deleted, s)
        | .print => goOn (s.write s.pattern)
        | .printFirstLine => goOn (s.writeText (s.pattern.takeWhile (· ≠ '\n') ++ ['\n']))
        | .lineNumber => goOn (s.writeText (digits s.number ++ ['\n']))
        | .quit prints status =>
          (if prints then .finished else .deleted, { s with hasQuit := true, status })
        | .append text => goOn { s with behind := s.behind ++ text }
        | .insert text => goOn (s.writeText text)
        | .change text =>
          let isOpen := s.active.any fun (other, _) => other = place
          (.deleted, if isOpen && !i.isNegated then s else s.writeText text)
        | .next =>
          if s.rest.isEmpty then (.finished, { s with hasQuit := true })
          else
            let s := if quiet then s else s.write s.pattern
            goOn (s.flush.advance id)
        | .joinNext =>
          if s.rest.isEmpty then (.finished, { s with hasQuit := true })
          else goOn (s.flush.advance fun line => s.pattern ++ '\n' :: line)
        | .hold adds =>
          goOn { s with held := if adds then s.held ++ '\n' :: s.pattern else s.pattern }
        | .fetch adds =>
          goOn { s with pattern := if adds then s.pattern ++ '\n' :: s.held else s.held }
        | .swap => goOn { s with pattern := s.held, held := s.pattern }
        | .jump onlyIfChanged name =>
          if onlyIfChanged && !s.isChanged then goOn s
          else
            runFrom quiet program fuel (labelPlace program name)
              (if onlyIfChanged then { s with isChanged := false } else s)

/-- The most steps that are taken on one line. -/
def stepLimit : Nat := 10000

/-- The work on all lines left; at most `fuel` lines and restarts. -/
def cycles (quiet : Bool) (program : Array Instruction) : Nat → Bool → State → State
  | 0, _, s => s
  | fuel + 1, keeps, s =>
    if s.hasQuit || (s.rest.isEmpty && !keeps) then s
    else
      let s := if keeps then s else { s.advance id with isChanged := false }
      let (ending, s) := runFrom quiet program stepLimit 0 s
      match ending with
      | .finished => cycles quiet program fuel false (if quiet then s else s.write s.pattern).flush
      | .deleted => cycles quiet program fuel false s.flush
      | .restarted => cycles quiet program fuel true s.flush

/-- A text edited by a program: what is written and the status. -/
def edit (quiet : Bool) (program : Array Instruction) (text : Octets) : Octets × Nat :=
  let lines := linesOf text
  let lacksFeed := !text.isEmpty && text.getLast? ≠ some '\n'
  let s := cycles quiet program (2 * text.length + 2) false { rest := lines, lacksFeed }
  (s.output, s.status)

end Editor

/-- The lines of all operands edited by a program, written or put back into the files. -/
def Request.sed (r : Request) : Effect :=
  r.withFlags "nErisuz" "efl" 1 fun f =>
    let given := f.options.filterMap fun (option, value) =>
      if option = 'e' then some value else none
    let (script, operands) : Option Octets × List Octets :=
      match given, f.operands with
      | [], script :: operands => (some script, operands)
      | [], [] => (none, [])
      | given, operands => (some (List.intercalate ['\n'] given), operands)
    match script with
    | none => .failure 1 (octets "Usage: sed [OPTION]... script [input-file]...")
    | some script =>
      let dialect := if f.has 'E' || f.has 'r' then Regex.Dialect.extended else .basic
      match Editor.read dialect script with
      | none => .failure 1 (r.naming (octets "-e expression #1, char 1: unknown command"))
      | some program =>
        let complaint (operand : Octets) (fault : FileFault) : Octets :=
          match fault with
          | .isDirectory _ => octets "couldn't edit " ++ operand ++ octets ": not a regular file"
          | _ => octets "can't read " ++ operand ++ octets ": " ++ reason fault
        if f.has 'i' then
          (r.contents operands complaint).foldl
            (fun (effect : Effect) found =>
              match found with
              | .error message =>
                { effect with chunks := effect.chunks ++ [(true, message)], status := 4 }
              | .ok (operand, text) =>
                let files := effect.files.getD r.files
                let edited := (Editor.edit (f.has 'n') program text).1
                match files.write (r.path operand) (bytesOf edited) with
                | .ok files => { effect with files := some files }
                | .error _ => effect)
            {}
        else
          let found := r.contents operands complaint
          let text := found.flatMap fun
            | .ok (_, text) => text
            | .error _ => []
          let errors := found.flatMap fun
            | .ok _ => []
            | .error message => message
          let (written, status) := Editor.edit (f.has 'n') program text
          { chunks := [(true, errors), (false, written)]
            status := if status ≠ 0 then status else if errors.isEmpty then 0 else 2
            usesInput := namesInput operands }

end ArenaLisp.Shell
