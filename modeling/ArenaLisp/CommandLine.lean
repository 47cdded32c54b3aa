import ArenaLisp.Files.Glob
import ArenaLisp.Options.Usage
import ArenaLisp.Prompt
import ArenaLisp.TestScript

/-!
# The command line

The program as a whole, as a function from its arguments and the world it is started in to the way
it ends and the world it leaves behind.  It runs test scripts, or script files one after the other
in one arena, or the prompt.  Every fault that is not dealt with further inside ends up here and is
reported.

## Main definitions

- `Departure`: the ways in which the program ends.
- `Arena.bindHostValues`: what scripts see of their caller.
- `Host`: the world and the state of reporting, shared by all sessions.
- **`commandLine`**: the program.
-/

namespace ArenaLisp

/-- How the program ends: by itself, on a request to leave with a code, or in a fault that nobody
    deals with. -/
inductive Departure where
  | returned
  | exit (code : Int)
  | escaped (fault : Fault)

/-- The variables of the environment as a list of pairs, in order of their names. -/
def environValue (environ : List (String × String)) : Value :=
  .list ((environ.mergeSort fun a b => decide (a.1 ≤ b.1)).map fun (name, value) =>
    .list [.string name, .string value])

/-- The arena with the strings handed to scripts and the variables of the environment bound in its
    root scope. -/
def Arena.bindHostValues (a : Arena) (scriptArgs : List String)
    (environ : List (String × String)) : Arena :=
  (a.define 0 "argv" (.list (scriptArgs.map .string))).define 0 "environ" (environValue environ)

/-- The settings that options choose, on a stack of the host. -/
def Options.settings (o : Options) (stack : Stack) : Settings :=
  { scoping := if o.lexical then .lexical else .dynamic
    hasEval := !o.noEval
    hasInclude := !o.noInclude
    stack }

/-- The world and the state of reporting. -/
structure Host where
  world : World
  report : Report := {}

namespace Host

/-- Deals with a fault that was not dealt with further inside. -/
def settle (h : Host) (fault : Fault) : Departure × World :=
  let (text, verdict, _) := h.report.handle h.world.painter fault.incident
  let world := { h.world with errors := h.world.errors ++ text }
  match verdict with
  | .suppressed => (.returned, world)
  | .exit code => (.exit code, world)
  | .escapes => (.escaped fault, world)

/-- Runs a script file in the root scope, in a session of its own. -/
def runScript (s : Settings) (path : String) : EStateM Fault Host Unit := fun h =>
  match Session.start h.world.files h.report 0 s path false with
  | (.error fault, report) => .error fault { h with report }
  | (.ok session, report) =>
    match Console.run { world := h.world, report, session } with
    | .ok _ c => .ok () { world := c.world, report := c.report }
    | .error fault c => .error fault { world := c.world, report := c.report }

/-- Runs script files in order, up to the first that fails. -/
def runScripts (s : Settings) : List String → EStateM Fault Host Unit
  | [] => pure ()
  | path :: rest => do
    runScript s path
    runScripts s rest

/-- Runs the prompt in the root scope until it is left. -/
def prompt (h : Host) (s : Settings) : Departure × World :=
  match Session.start h.world.files h.report 0 s commandLineName true with
  | (.error fault, report) => settle { h with report } fault
  | (.ok session, report) =>
    let (reply, p) := Prompt.loop { console := { world := h.world, report, session } }
    match reply with
    | .next | .stop => (.returned, p.console.world)
    | .exit code => (.exit code, p.console.world)
    | .escaped fault => settle { world := p.console.world, report := p.console.report } fault

end Host

/-- Runs the test scripts of a directory and prints a line for each test.  The code tells whether
    all of them passed. -/
def testCommand (s : Settings) (directory : String) (w : World) : Departure × World :=
  match runTests s directory w with
  | .error fault w => Host.settle { world := w } fault
  | .ok outcomes w =>
    let lines := outcomes.map fun outcome => outcome.text w.painter ++ "\n"
    (.exit (if outcomes.all TestOutcome.passed then 0 else 1), w.print (String.join lines))

/-- Runs the script files, then the prompt if there are none or if it is asked for. -/
def scriptCommand (o : Options) (w : World) : Departure × World :=
  let w := { w with arena := Arena.default.bindHostValues o.scriptArgs w.environ }
  match w.files.expand o.files with
  | none => Host.settle { world := w } (.stray .nullByte)
  | some paths =>
    let settings := o.settings w.platform.stack
    match Host.runScripts settings paths { world := w } with
    | .error fault host => host.settle fault
    | .ok _ host =>
      if paths.isEmpty || o.interactive then host.prompt settings else (.returned, host.world)

/-- **The program**: what it does with its arguments in a world. -/
def commandLine (arguments : List String) (w : World) : Departure × World :=
  match Invocation.ofArguments arguments with
  | .help => (.exit 0, w.print helpPage)
  | .misuse problem => (.exit 2, { w with errors := w.errors ++ problem.report })
  | .run o =>
    let w := { w with verbose := o.verbose }
    match o.testDirectory with
    | some directory => testCommand (o.settings w.platform.stack) directory w
    | none => scriptCommand o w

end ArenaLisp
