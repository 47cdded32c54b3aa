import ArenaLisp.Evaluate
import ArenaLisp.Fault.Wording
import ArenaLisp.Files.Glob
import ArenaLisp.Library
import ArenaLisp.Text.Sorted

/-!
# Test scripts

A test script is a file whose name ends in `test.lisp`.  Each one is run in its own scope under an
arena that all of them share, which holds the library and the assertions.  Every name that starts
with `test-` and is bound in that scope is then called without arguments; the test passes if the
call ends in a value.

## Main definitions

- `TestOutcome`: the outcome of one test, shown by `TestOutcome.text`.
- `findTestScripts`: the test scripts of a directory.
- `runTestScript`: the tests of one script.
- **`runTests`**: the tests of a directory.
-/

namespace ArenaLisp

/-- The outcome of a test: the script, the name of the test, and the error that it ended in. -/
structure TestOutcome where
  path : String
  name : String
  failure : Option Diagnostic := none

namespace TestOutcome

/-- Whether the test ended in a value. -/
def passed (o : TestOutcome) : Bool := o.failure.isNone

/-- The last component of a path. -/
def baseName (path : String) : String :=
  String.ofList (path.toList.reverse.takeWhile (· ≠ '/')).reverse

/-- The line that shows an outcome. -/
def text (painter : Painter) (o : TestOutcome) : String :=
  let label := baseName o.path ++ "/" ++ o.name
  match o.failure with
  | none => painter.paint (some .green) "PASS " ++ label
  | some d =>
    painter.paint (some .red) "FAIL " ++ label ++ ": " ++ d.kind.label ++ ": " ++ d.message

/-- How an outcome is described. -/
def describe (o : TestOutcome) : String :=
  "Outcome(" ++ Text.quoted o.path ++ ", " ++ Text.quoted o.name ++ ", passed=" ++
    (if o.passed then "True" else "False") ++ ")"

end TestOutcome

/-- The paths of the test scripts directly inside a directory, sorted. -/
def findTestScripts (files : FileTree) (directory : String) : Except Fault (List String) :=
  if directory.toList.contains (Char.ofNat 0) then .error (.stray .nullByte)
  else
    match files.list directory with
    | .error problem => .error (.stray (.cannotList problem))
    | .ok names =>
      .ok (Text.sorted ((names.filter (Text.endsIn "test.lisp")).map (Glob.joinPath directory)))

/-- A computation in which an error of the language is an outcome; any other fault goes on. -/
def Run.attempt (run : Run α) : Run (Except Diagnostic α) := fun w =>
  match run w with
  | .ok value w => .ok (.ok value) w
  | .error fault w =>
    match fault.diagnostic? with
    | some d => .ok (.error d) w
    | none => .error fault w

/-- Calls one test in the scope of its script. -/
def runTest (s : Settings) (path : String) (env : Handle) (name : String) : Run TestOutcome := do
  match ← Run.attempt (runSource s ("(" ++ name ++ ")") env) with
  | .ok _ => return { path, name }
  | .error d => return { path, name, failure := some d }

/-- Calls tests in order. -/
def runTestNames (s : Settings) (path : String) (env : Handle) :
    List String → Run (List TestOutcome)
  | [] => pure []
  | name :: rest => do
    let outcome ← runTest s path env name
    let outcomes ← runTestNames s path env rest
    return outcome :: outcomes

/-- Runs a test script in a scope of its own under `env`, then its tests in the order in which their
    names were first bound. -/
def runTestScript (s : Settings) (env : Handle) (path : String) : Run (List TestOutcome) := do
  let scope ← Run.openScope env true
  let _ ← runFile s path scope
  let names ← Run.localNames scope
  runTestNames s path scope (names.filter (Text.startsWith "test-"))

/-- Runs test scripts in order. -/
def runTestScripts (s : Settings) (env : Handle) : List String → Run (List TestOutcome)
  | [] => pure []
  | path :: rest => do
    let outcomes ← runTestScript s env path
    let others ← runTestScripts s env rest
    return outcomes ++ others

/-- **Runs the tests of a directory** in a fresh arena. -/
def runTests (s : Settings) (directory : String) : Run (List TestOutcome) := do
  modify fun w => { w with arena := Arena.withAssertions }
  let paths ← Run.ofExcept (findTestScripts (← get).files directory)
  runTestScripts s 0 paths

end ArenaLisp
