import ArenaLisp.Shell.Machine
import ArenaLisp.Shell.Pattern

/-!
# What words stand for

When a command runs, each of its words is replaced by the words it stands for: parameters, outputs
of commands and values of expressions are put in, what came in outside of quotes is cut into fields,
and fields that are patterns are replaced by the paths they stand for.

The output of a command needs a way to run it, which every definition here takes as an argument.

## Main definitions

- `Piece`: a character of a word with what is known of its origin.
- `pieces`: the pieces of a word.
- `fields`: pieces cut into fields.
- `Machine.paths`: the paths that a pattern stands for.
- **`expandWords`**, `expandText`, `expandPattern`: words, a text or a pattern with everything put
  in.
-/

namespace ArenaLisp.Shell

/-- A character of a word: written as it is, quoted, or put in by a replacement outside of quotes.
    `quotes` marks the place of a quote, `boundary` the place between two arguments. -/
inductive Piece where
  | literal (c : Char)
  | quoted (c : Char)
  | expanded (c : Char)
  | quotes
  | boundary
  deriving Repr, DecidableEq

/-- The pieces of a text that is put in. -/
def putIn (isQuoted : Bool) (text : Octets) : List Piece :=
  text.map fun c => if isQuoted then .quoted c else .expanded c

/-- The text of pieces. -/
def Piece.chars : Piece → Octets
  | .literal c | .quoted c | .expanded c => [c]
  | .quotes => []
  | .boundary => [' ']

/-! ## Parameters -/

/-- Whether a parameter stands for all arguments. -/
def standsForAll (name : Octets) : Bool := name = ['@'] || name = ['*']

/-- The value of a parameter. -/
def Machine.parameter? (m : Machine) (name : Octets) : Option Octets :=
  match name with
  | ['#'] => some (digits m.arguments.length)
  | ['?'] => some (digits m.status)
  | ['$'] => some ['1']
  | ['!'] => none
  | ['-'] =>
    some ((if m.switches.stopsOnFailure then ['e'] else []) ++
      (if m.switches.keepsPatterns then ['f'] else []) ++
      (if m.switches.refusesUnset then ['u'] else []))
  | _ =>
    if standsForAll name then
      if m.arguments.isEmpty then none else some (List.intercalate [' '] m.arguments)
    else if name.all Char.isDigit then
      let number := Decimal.digitsValue name
      if number = 0 then some m.name
      else if number ≤ m.arguments.length then m.arguments[number - 1]?
      else none
    else m.value? name

/-- The pieces of all arguments.  In quotes `@` keeps them apart and `*` joins them by the first
    character at which fields are cut. -/
def Machine.allArguments (m : Machine) (name : Octets) (isQuoted : Bool) : List Piece :=
  if isQuoted && name = ['*'] then
    putIn true (List.intercalate (m.separators.take 1) m.arguments)
  else
    let mark := if isQuoted then [Piece.quotes] else []
    List.intercalate [.boundary] (m.arguments.map fun argument => mark ++ putIn isQuoted argument)

/-! ## Commands and expressions -/

/-- The output of a command line that runs on a copy of the state, without line feeds at its end. -/
def capture (run : Octets → Act Unit) (source : Octets) : Act Octets := do
  let index ← openStream {}
  isolated do
    modify fun m =>
      { m with channels := m.channels.put 1 (.stream index), isTested := false, onExit := [] }
    run source
  modify fun m => { m with hasCaptured := true }
  return withoutFinalFeeds ((← get).streams.getD index {}).content

/-- The wording of a fault of an expression. -/
def ArithFault.message (source : Octets) : ArithFault → Octets
  | .malformed => octets "arithmetic expression: expecting primary: \"" ++ source ++ ['"']
  | .divisionByZero => octets "arithmetic expression: division by zero: \"" ++ source ++ ['"']
  | .illegalNumber text => octets "Illegal number: " ++ text

/-- The value of an expression. -/
def calculate (source : Octets) : Act Octets := do
  match Arith.read source with
  | none => do
    abandon (ArithFault.malformed.message source)
    return []
  | some e =>
    match e.evaluate (← get).bindings with
    | .error fault => do
      abandon (fault.message source)
      return []
    | .ok (n, bindings) => do
      modify fun m => { m with bindings }
      return integerDigits n

/-! ## Pieces -/

/-- Pieces that were written in an operand outside of quotes, as they are put in. -/
def asPutIn (pieces : List Piece) : List Piece :=
  pieces.map fun
    | .literal c => .expanded c
    | piece => piece

/-- Pieces as a pattern. -/
def asField (pieces : List Piece) : Field :=
  pieces.flatMap fun
    | .quoted c => [(c, true)]
    | piece => piece.chars.map fun c => (c, false)

/-- The pieces of a word, with at most `fuel` operands inside of operands. -/
def pieces (run : Octets → Act Unit) : Nat → Word → Act (List Piece)
  | 0, _ => pure []
  | fuel + 1, word => do
    let text (word : Word) : Act Octets := do
      return (← pieces run fuel word).flatMap Piece.chars
    let operandPieces (isQuoted : Bool) (operand : Octets) : Act (List Piece) :=
      if isQuoted then pieces run fuel (quotedText .operand operand)
      else do return asPutIn (← pieces run fuel (plainText operand))
    let onePart (part : Part) : Act (List Piece) := do
      match part with
      | .char c isQuoted => return [if isQuoted then .quoted c else .literal c]
      | .quotes => return [.quotes]
      | .malformed => do
        abandon (octets "Bad substitution")
        return []
      | .command source isQuoted => return putIn isQuoted (← capture run source)
      | .arithmetic source isQuoted => do
        let source ← text (quotedText .document source)
        if ← goesOn then return putIn isQuoted (← calculate source) else return []
      | .parameter name action isQuoted => do
        let m ← get
        let value? := m.parameter? name
        let plain : Act (List Piece) :=
          if standsForAll name then return m.allArguments name isQuoted
          else
            match value? with
            | some value => return putIn isQuoted value
            | none => do
              if m.switches.refusesUnset then abandon (name ++ octets ": parameter not set")
              return []
        let isSet (emptyToo : Bool) : Bool :=
          match value? with
          | some value => !(emptyToo && value.isEmpty)
          | none => false
        match action with
        | .value => plain
        | .length =>
          let length := if standsForAll name then m.arguments.length else (value?.getD []).length
          return putIn isQuoted (digits length)
        | .orElse emptyToo operand =>
          if isSet emptyToo then plain else operandPieces isQuoted operand
        | .instead emptyToo operand =>
          if isSet emptyToo then operandPieces isQuoted operand else return []
        | .assign emptyToo operand =>
          if isSet emptyToo then plain
          else do
            let value := (← operandPieces isQuoted operand).flatMap Piece.chars
            assignVariable name value
            return putIn isQuoted value
        | .require emptyToo operand =>
          if isSet emptyToo then plain
          else do
            let message ← text (plainText operand)
            let standard := if emptyToo then "parameter not set or null" else "parameter not set"
            abandon (name ++ octets ": " ++
              (if message.isEmpty then octets standard else message))
            return []
        | .trim atEnd longest pattern => do
          let field := asField (← pieces run fuel (plainText pattern))
          let trim := if atEnd then trimEnd else trimStart
          return putIn isQuoted (trim longest field (value?.getD []))
    word.foldlM
      (fun before part => do
        if ← goesOn then return before ++ (← onePart part) else return before)
      []

/-! ## Fields -/

/-- Fields on the way: those that are complete, last one first, and the one in progress, last
    character first, if there is one.  `joins` tells that the last field was ended by blanks, so
    that a separator that follows belongs to the same end. -/
structure FieldsState where
  complete : List Field := []
  current : Option Field := none
  joins : Bool := false

namespace FieldsState

/-- The field in progress with a character added. -/
def add (s : FieldsState) (c : Char) (isQuoted : Bool) : FieldsState :=
  { s with current := some ((c, isQuoted) :: s.current.getD []), joins := false }

/-- The field in progress completed, if there is one. -/
def flush (s : FieldsState) : FieldsState :=
  match s.current with
  | some field => { complete := field.reverse :: s.complete }
  | none => s

/-- One piece. -/
def step (separators : Octets) (s : FieldsState) : Piece → FieldsState
  | .literal c => s.add c false
  | .quoted c => s.add c true
  | .quotes => { s with current := some (s.current.getD []), joins := false }
  | .boundary => { s.flush with joins := false }
  | .expanded c =>
    if !separators.contains c then s.add c false
    else if c = ' ' || c = '\t' || c = '\n' then
      if s.current.isSome then { s.flush with joins := true } else s
    else if s.current.isSome then s.flush
    else if s.joins then { s with joins := false }
    else { s with complete := [] :: s.complete }

end FieldsState

/-- Pieces cut into fields at the separators that were put in. -/
def fields (separators : Octets) (pieces : List Piece) : List Field :=
  (pieces.foldl (FieldsState.step separators) {}).flush.complete.reverse

/-! ## Paths -/

/-- The components of a pattern. -/
def Field.components (field : Field) : List Field :=
  let (first, rest) := field.foldr
    (fun (c, isQuoted) (current, others) =>
      if c = '/' then ([], current :: others) else ((c, isQuoted) :: current, others))
    (([], []) : Field × List Field)
  first :: rest

/-- The names in a directory that a component stands for.  Names that start with a dot are only
    found by a component that does. -/
def Machine.namesFor (m : Machine) (front : Octets) (component : Field) : List Octets :=
  let directory := if front.isEmpty then ['.'] else front
  match m.files.list (pathFrom m.here directory) with
  | .error _ => []
  | .ok names =>
    let isDotted := component.head?.any fun (c, _) => c = '.'
    let names := (if isDotted then [".", ".."] else []) ++ names
    let items := component.items
    (names.map octets).filter fun name =>
      (isDotted || name.head? ≠ some '.') && Glob.matchItems items name

/-- The paths that components stand for behind the beginning of a path. -/
def Machine.pathsFrom (m : Machine) : List Field → Octets → List Octets
  | [], _ => []
  | [component], front =>
    if component.isMagic then (m.namesFor front component).map (front ++ ·)
    else
      let path := front ++ component.text
      if m.files.contains (pathFrom m.here path) then [path] else []
  | component :: rest, front =>
    if component.isMagic then
      (m.namesFor front component).flatMap fun name => m.pathsFrom rest (front ++ name ++ ['/'])
    else m.pathsFrom rest (front ++ component.text ++ ['/'])

/-- The paths that a pattern stands for, in order.  A pattern that stands for none is kept. -/
def Machine.paths (m : Machine) (field : Field) : List Octets :=
  if field.isMagic && !m.switches.keepsPatterns then
    match (m.pathsFrom field.components []).mergeSort octetsLe with
    | [] => [field.text]
    | paths => paths
  else [field.text]

/-! ## Words -/

/-- A word with the directory of the user put in for a tilde at its start. -/
def Machine.replaceTilde (m : Machine) (word : Word) : Word :=
  match word, m.value? (octets "HOME") with
  | .char '~' false :: rest, some home =>
    if rest.isEmpty || rest.head? = some (.char '/' false) then
      home.map (Part.char · true) ++ rest
    else word
  | _, _ => word

/-- **The words that words stand for.** -/
def expandWords (run : Octets → Act Unit) (fuel : Nat) (words : List Word) : Act (List Octets) :=
  words.foldlM
    (fun before word => do
      let m ← get
      if m.flow = .next then
        let found ← pieces run fuel (m.replaceTilde word)
        let m ← get
        return before ++ (fields m.separators found).flatMap m.paths
      else return before)
    []

/-- The text that a word stands for, in one piece. -/
def expandText (run : Octets → Act Unit) (fuel : Nat) (word : Word) : Act Octets := do
  let m ← get
  return (← pieces run fuel (m.replaceTilde word)).flatMap Piece.chars

/-- The pattern that a word stands for. -/
def expandPattern (run : Octets → Act Unit) (fuel : Nat) (word : Word) : Act Field := do
  return asField (← pieces run fuel word)

end ArenaLisp.Shell
