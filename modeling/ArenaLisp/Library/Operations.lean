import ArenaLisp.World

/-!
# What the builtin operations do

Each operation is applied to arguments that are values already, from the scope of the call.  Most
operations only look at their arguments; the others print, read, or list names.

## Main definitions

- `expectString`, `expectList`, `expectBool`: an argument of a kind, or a fault that names it.
- `Unary.apply`, `Binary.apply`, `NonEmpty.apply`, `Variadic.apply`, `Nullary.apply`: the
  operations by their form.
- **`Builtin.apply`**: a builtin applied to arguments, their number checked first.
-/

namespace ArenaLisp

/-- A fault for a value that is of none of the kinds an operation expects. -/
def unexpected (name : String) (kinds : List Value.Kind) (value : Value) : Run α :=
  throw (.binding (.unexpectedKind name kinds value))

/-- The text of a string argument. -/
def expectString (name : String) : Value → Run String
  | .string text => pure text
  | value => unexpected name [.string] value

/-- The items of a list argument. -/
def expectList (name : String) : Value → Run (List Value)
  | .list items => pure items
  | value => unexpected name [.list] value

/-- The texts of string arguments, checked from left to right. -/
def expectStrings (name : String) : List Value → Run (List String)
  | [] => pure []
  | value :: rest => do
    let text ← expectString name value
    let texts ← expectStrings name rest
    return text :: texts

/-- A boolean argument: the integer 0 or 1. -/
def expectBool (name : String) : Value → Run Bool
  | .integer n =>
    if n = 0 then pure false
    else if n = 1 then pure true
    else throw (.binding (.notBoolean name (.integer n)))
  | value => throw (.binding (.notBoolean name value))

/-! ## Operations without arguments -/

/-- A line without the line feeds and carriage returns at its end. -/
def withoutLineEnd (line : List Char) : List Char :=
  (line.reverse.dropWhile fun c => c = '\n' || c = '\r').reverse

/-- A line that was read as a value, without its end, or a fault if it could not be read. -/
def lineValue : Except InputFault (List Char) → Except Fault Value
  | .ok line => .ok (.string (String.ofList (withoutLineEnd line)))
  | .error (.refused fault) => .error (.binding (.inputRefused "read-line" fault))
  | .error fault => .error (.stray fault.stray)

/-- The list of some names as a value. -/
def namesValue (names : List String) : Value := .list (names.map .string)

/-- Applies an operation without arguments in the scope of the call. -/
def Nullary.apply (op : Nullary) (env : Handle) : Run Value :=
  match op with
  | .readLine => do Run.ofExcept (lineValue (← Run.readLine))
  | .localNames => do return namesValue (← Run.localNames env)
  | .allNames => do return namesValue (← Run.allNames env)

/-! ## Operations on one argument -/

/-- The lines of a text as a value: cut at line feeds, one carriage return dropped from each. -/
def linesValue (text : String) : Value :=
  .list ((Text.lines text.toList).map fun line => .string (String.ofList (Text.withoutReturn line)))

/-- Reads a decimal integer in a text; one that does not fit a machine word is refused. -/
def readDecimal (text : String) : Run Value :=
  match Decimal.readInteger text.toList with
  | .malformed => throw (.binding (.notDecimal "parse-int" text))
  | .tooLong digits => throw (.stray (.tooManyDigits digits))
  | .value n => Run.ofExcept (word "parse-int" n)

/-- The world after a command line was run. -/
def World.afterCommand (w : World) (c : CompletedProcess) : World :=
  { w with
    files := c.files
    shellErrors := w.shellErrors ++ c.errors
    input := { w.input with supplies := Input.skip c.taken w.input.supplies } }

/-- The output of a command line as a value: a text, without one line feed at the end. -/
def outputValue (output : List UInt8) : Except Fault Value :=
  match Text.Utf8.decode output with
  | .error problem => .error (.stray (.outputNotText problem))
  | .ok text =>
    let text := Text.unifyNewlines text
    .ok (.string (String.ofList (if text.getLast? = some '\n' then text.dropLast else text)))

/-- Hands a command line to the shell of the platform, which may not be able to start it. -/
def inShell (command : String) : Run Value := fun w =>
  match w.platform.shell w.files w.environ w.input.supplies command with
  | .error fault => .error (.binding (.notRun "system" command fault)) w
  | .ok completed => Run.ofExcept (outputValue completed.output) (w.afterCommand completed)

/-- Runs a command line.  A null character cannot be in one. -/
def runCommand (command : String) : Run Value := do
  Run.log .library fun _ => "running " ++ Text.quoted command
  if command.toList.contains (Char.ofNat 0) then throw (.stray .nullByte)
  inShell command

/-- Applies an operation to its argument. -/
def Unary.apply : Unary → Value → Run Value
  | .not, .integer n => pure (.ofBool (decide (n = 0)))
  | .not, value => unexpected "not" [.integer] value
  | .car, .list (first :: _) => pure first
  | .car, .list [] => throw (.binding (.noElement "car"))
  | .car, value => unexpected "car" [.list] value
  | .cdr, .list items => pure (.list items.tail)
  | .cdr, value => unexpected "cdr" [.list] value
  | .length, .unit => pure (.integer 0)
  | .length, .string text => pure (.integer text.utf8ByteSize)
  | .length, .list items => pure (.integer items.length)
  | .length, value => unexpected "length" [.unit, .string, .list] value
  | .endp, .list items => pure (.ofBool items.isEmpty)
  | .endp, value => unexpected "endp" [.list] value
  | .lines, .string text => pure (linesValue text)
  | .lines, value => unexpected "str-lines" [.string] value
  | .readFile, .string path => do
    match ← Run.readText path with
    | .ok text => return .string (String.ofList text)
    | .error problem => throw (.binding (.unreadable "read-file" path problem))
  | .readFile, value => unexpected "read-file" [.string] value
  | .parseInt, .integer n => pure (.integer n)
  | .parseInt, .string text => readDecimal text
  | .parseInt, value => unexpected "parse-int" [.string, .integer] value
  | .system, .string command => runCommand command
  | .system, value => unexpected "system" [.string] value
  | .error, .string text => pure (.error text)
  | .error, value => unexpected "error" [.string] value

/-! ## Operations on two arguments -/

/-- The pieces of a text between the occurrences of a separator, as a value. -/
def splitValue (text separator : String) : Value :=
  .list ((Text.pieces separator.toList text.toList).map fun piece => .string (String.ofList piece))

/-- Texts joined by a separator. -/
def joinTexts (separator : String) (texts : List String) : String :=
  String.ofList (List.intercalate separator.toList (texts.map String.toList))

/-- Applies an operation to its two arguments. -/
def Binary.apply (op : Binary) (a b : Value) : Run Value :=
  match op with
  | .mod => Run.ofExcept (arithmetic .mod a b)
  | .equals => pure (.ofBool (a.same b))
  | .less => Run.ofExcept (compareIntegers "<" a b)
  | .greater => Run.ofExcept (compareIntegers ">" a b)
  | .and => do
    let x ← expectBool "and" a
    let y ← expectBool "and" b
    return .ofBool (x && y)
  | .or => do
    let x ← expectBool "or" a
    let y ← expectBool "or" b
    return .ofBool (x || y)
  | .cons => do return .list (a :: (← expectList "cons" b))
  | .split => do
    let text ← expectString "str-split" a
    let separator ← expectString "str-split" b
    if separator.isEmpty then throw (.binding (.emptySeparator "str-split"))
    return splitValue text separator
  | .join => do
    let separator ← expectString "str-join" a
    let texts ← expectStrings "str-join" (← expectList "str-join" b)
    return .string (joinTexts separator texts)
  | .assertEqual => do
    if a.same b then return .unit else throw (.binding (.assertionUnequal a b))

/-! ## Operations on any number of arguments -/

/-- Whether a value is a number. -/
def Value.isNumber : Value → Bool
  | .integer _ | .float _ => true
  | _ => false

/-- All arguments must be numbers; the first that is none is named. -/
def expectNumbers (name : String) : List Value → Run Unit
  | [] => pure ()
  | value :: rest =>
    if value.isNumber then expectNumbers name rest
    else unexpected name [.integer, .float] value

/-- An operation applied from left to right. -/
def foldArithmetic (op : Operator) (first : Value) : List Value → Except Fault Value
  | [] => .ok first
  | value :: rest =>
    match arithmetic op first value with
    | .ok next => foldArithmetic op next rest
    | .error fault => .error fault

/-- One value for one argument, a list for several. -/
def oneOrList (f : Value → Value) (first : Value) : List Value → Value
  | [] => f first
  | rest => .list (f first :: rest.map f)

/-- Applies an operation to its first argument and the others. -/
def NonEmpty.apply (op : NonEmpty) (first : Value) (rest : List Value) : Run Value :=
  match op with
  | .fold op => do
    expectNumbers op.name (first :: rest)
    Run.ofExcept (foldArithmetic op first rest)
  | .toText => pure (oneOrList (fun value => .string value.text) first rest)
  | .typeOf => pure (oneOrList (fun value => .string value.kind.name) first rest)

/-- The lines that show arguments by number. -/
def debugLines : Nat → List Value → String
  | _, [] => ""
  | n, value :: rest => toString n ++ ": " ++ value.describe ++ "\n" ++ debugLines (n + 1) rest

/-- All arguments must be the integer 1; the first that is not is shown. -/
def requireAll : List Value → Run Value
  | [] => pure .unit
  | value :: rest =>
    if value.isYes then requireAll rest else throw (.binding (.assertionFailed value))

/-- Applies an operation to its arguments. -/
def Variadic.apply (op : Variadic) (args : List Value) : Run Value :=
  match op with
  | .list => pure (.list args)
  | .last => pure (args.getLastD .unit)
  | .concat => do return .string (String.join (← expectStrings "str-concat" args))
  | .print => do
    Run.print (String.join (args.map Value.text) ++ "\n")
    return .unit
  | .debug => do
    Run.print (debugLines 0 args)
    return .unit
  | .assertAll => requireAll args

/-! ## Application -/

/-- **Applies a builtin** from the scope of the call.  A wrong number of arguments is refused before
    anything else happens. -/
def Builtin.apply (b : Builtin) (env : Handle) (args : List Value) : Run Value :=
  match b.operation, args with
  | .nullary op, [] => op.apply env
  | .unary op, [a] => op.apply a
  | .binary op, [a, b] => op.apply a b
  | .nonEmpty op, first :: rest => op.apply first rest
  | .variadic op, args => op.apply args
  | operation, args => throw (.arity (operation.arity.fault b.name args.length))

end ArenaLisp
