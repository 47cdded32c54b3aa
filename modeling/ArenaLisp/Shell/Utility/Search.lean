import ArenaLisp.Shell.Regex
import ArenaLisp.Shell.Utility.Places

/-!
# Lines that match

`grep` passes on the lines of its operands in which a pattern is found, or tells how many there are.

## Main definitions

- `Searching`: what is looked for and how.
- `Searching.matches`: the parts of a line that match.
- `Request.grep`.
-/

namespace ArenaLisp.Shell

/-- What is looked for: one of several expressions. -/
structure Searching where
  expressions : List Regex
  ignoresCase : Bool := false

namespace Searching

/-- The first match from a place on: of several that start at the same place the longest. -/
def first? (s : Searching) (spot : Regex.Spot) : Option (Regex.Spot × Regex.Spot) :=
  let found := s.expressions.filterMap fun r =>
    r.firstFrom s.ignoresCase (spot.rest.length + 1) spot
  found.foldl
    (fun best next =>
      match best with
      | none => some next
      | some (start, stop) =>
        if next.1.taken < start.taken ∨
            (next.1.taken = start.taken ∧ stop.taken < next.2.taken) then
          some next
        else best)
    none

/-- Whether a line matches. -/
def accepts (s : Searching) (line : Octets) : Bool := (s.first? { rest := line }).isSome

/-- The parts of a line that match and are not empty, from a place on; at most `fuel` of them. -/
def partsFrom (s : Searching) : Nat → Regex.Spot → List Octets
  | 0, _ => []
  | fuel + 1, spot =>
    match s.first? spot with
    | none => []
    | some (start, stop) =>
      if stop.taken = start.taken then
        match start.step? with
        | some (_, next) => s.partsFrom fuel next
        | none => []
      else start.rest.take (stop.taken - start.taken) :: s.partsFrom fuel stop

/-- The parts of a line that match. -/
def parts (s : Searching) (line : Octets) : List Octets :=
  s.partsFrom (line.length + 1) { rest := line }

end Searching

/-- A text taken as it is, as an expression. -/
def literalRegex (text : Octets) : Regex :=
  text.foldr (fun c r => .sequence (.char c) r) .empty

/-- The expression that a pattern stands for under options. -/
def patternRegex (f : Flags) (pattern : Octets) : Option Regex :=
  let plain :=
    if f.has 'F' then some (literalRegex pattern)
    else Regex.read (if f.has 'E' then .extended else .basic) pattern
  plain.map fun r =>
    if f.has 'x' then .sequence .lineStart (.sequence r .lineEnd)
    else if f.has 'w' then .sequence (.wordEdge true false) (.sequence r (.wordEdge false true))
    else r

namespace Request

/-- The operands of a search; directories stand for all files below them if asked for. -/
def searched (r : Request) (f : Flags) (operands : List Octets) : List Octets :=
  if f.has 'r' || f.has 'R' then
    (if operands.isEmpty then [['.']] else operands).flatMap fun operand =>
      if r.isDirectory operand then
        let paths := (r.pathsBelow 64 0 operand).map (·.2)
        let paths := if operands.isEmpty then paths.map (·.drop 2) else paths
        paths.filter fun path => !r.isDirectory path && !path.isEmpty
      else [operand]
  else operands

/-- What a search writes about one text, and how many lines it selects. -/
def searchOne (f : Flags) (s : Searching) (isNamed : Bool) (operand text : Octets) :
    Octets × Nat :=
  let shown := if operand = ['-'] then octets "(standard input)" else operand
  let name : Octets := if isNamed then shown ++ [':'] else []
  let lines := linesOf text
  let selected := ((List.range lines.length).zip lines).filter fun (_, line) =>
    s.accepts line != f.has 'v'
  let selected := match f.value? 'm' with
    | some count => selected.take (Decimal.digitsValue count)
    | none => selected
  let front (place : Nat) : Octets :=
    name ++ if f.has 'n' then digits (place + 1) ++ [':'] else []
  let written : Octets :=
    if f.has 'q' then []
    else if f.has 'l' then if selected.isEmpty then [] else shown ++ ['\n']
    else if f.has 'L' then if selected.isEmpty then shown ++ ['\n'] else []
    else if f.has 'c' then name ++ digits selected.length ++ ['\n']
    else if f.has 'o' then
      if f.has 'v' then []
      else selected.flatMap fun (place, line) =>
        (s.parts line).flatMap fun part => front place ++ part ++ ['\n']
    else selected.flatMap fun (place, line) => front place ++ line ++ ['\n']
  (written, selected.length)

/-- The lines in which a pattern is found. -/
def grep (r : Request) : Effect :=
  r.withFlags "vicnqlLowxEFGhHsrRa" "em" 2 fun f =>
    let given := f.options.filterMap fun (option, value) =>
      if option = 'e' then some value else none
    let (patterns, operands) : Option (List Octets) × List Octets :=
      match given, f.operands with
      | [], pattern :: operands => (some [pattern], operands)
      | [], [] => (none, [])
      | given, operands => (some given, operands)
    match patterns with
    | none =>
      .failure 2 (octets
        "Usage: grep [OPTION]... PATTERNS [FILE]...\nTry 'grep --help' for more information.")
    | some patterns =>
      let expressions := (patterns.flatMap (Text.pieces ['\n'])).map (patternRegex f)
      if expressions.any Option.isNone then
        .failure 2 (r.naming (octets "Invalid regular expression"))
      else
        let s : Searching := { expressions := expressions.filterMap id, ignoresCase := f.has 'i' }
        let files := r.searched f operands
        let isNamed := !f.has 'h' &&
          (1 < operands.length || f.has 'H' || ((f.has 'r' || f.has 'R') &&
            (operands.isEmpty || operands.any r.isDirectory)))
        let found := (r.contents files plainComplaint).map fun
          | .ok (operand, text) => Except.ok (searchOne f s isNamed operand text)
          | .error message => .error message
        let selected := (found.map fun
          | .ok (_, count) => count
          | .error _ => 0).foldl (· + ·) 0
        { chunks := found.map fun
            | .ok (text, _) => (false, text)
            | .error message => (true, if f.has 's' then [] else message)
          status :=
            if f.has 'q' && 0 < selected then 0
            else if found.any fun text => !text.isOk then 2
            else if 0 < selected then 0
            else 1
          usesInput := namesInput files }

end Request

end ArenaLisp.Shell
