import ArenaLisp.Evaluate
import ArenaLisp.Report
import ArenaLisp.Session.Sources

/-!
# Sessions

A session runs sources in one scope, in the order in which they were queued, and keeps their values.
It belongs to a script file, whose sources are queued when the session is opened, or to the command
line, where sources are queued as they are typed.

## Main definitions

- `Session`: the queue and the results.
- `Session.start`: a session on a script file or on the command line.
- `Console`: a session with the world it runs in and the state of reporting.
- `Console.run`: the queued sources run.
-/

namespace ArenaLisp

/-- The name that stands for the command line where a path is expected. -/
def commandLineName : String := "<in>"

/-- A session: what it is called in reports, whether it belongs to the command line, the scope and
    the settings it runs sources with, the sources still to be run by the number of their first
    line, and the values of those that were, in order. -/
structure Session where
  path : String
  interactive : Bool := false
  env : Handle := 0
  settings : Settings := {}
  queue : Ordered Int String := []
  results : List Value := []

namespace Session

/-- The session with a source queued; one queued before under the same number is replaced. -/
def add (s : Session) (source : String) (line : Int) : Session :=
  { s with queue := Ordered.put line source s.queue }

/-- The sources of a script file, in order. -/
def load (files : FileTree) (path : String) : Except Fault (List Source) :=
  if path.toList.contains (Char.ofNat 0) then .error (.stray .nullByte)
  else
    match files.readText path with
    | .ok text => .ok (sources text)
    | .error _ => .error (.session (.cannotOpen path))

/-- Opens a session and enters its path in the report.  On the command line failures are not fatal.
    The name of the command line is no path of a script file. -/
def start (files : FileTree) (report : Report) (env : Handle) (settings : Settings) (path : String)
    (interactive : Bool) : Except Fault Session × Report :=
  let report := report.registerFile path
  let report := if interactive then { report with fatal := false } else report
  let session : Session := { path, interactive, env, settings }
  if path = commandLineName then
    if interactive then (.ok session, report) else (.error (.session .reservedName), report)
  else
    match load files path with
    | .error fault => (.error fault, report)
    | .ok sources =>
      (.ok (sources.foldl (fun s source => s.add (String.ofList source.text) source.line) session),
        report)

/-- The latest result, unit if there is none, and the session without it. -/
def pop (s : Session) : Value × Session :=
  match s.results.getLast? with
  | some value => (value, { s with results := s.results.dropLast })
  | none => (.unit, s)

end Session

/-- A session with the world it runs in and the state of reporting. -/
structure Console where
  world : World
  report : Report
  session : Session

namespace Console

/-- A computation on the world of a console. -/
def onWorld (run : Run α) : EStateM Fault Console α := fun c =>
  match run c.world with
  | .ok value world => .ok value { c with world }
  | .error fault world => .error fault { c with world }

/-- The console with its session changed. -/
def changeSession (c : Console) (f : Session → Session) : Console :=
  { c with session := f c.session }

/-- A source that has run leaves the queue of the command line, however it ended. -/
def dequeue (line : Int) (c : Console) : Console :=
  if c.session.interactive then
    c.changeSession fun s => { s with queue := Ordered.erase line s.queue }
  else c

/-- Runs one source.  It stands in the traceback until it has succeeded. -/
def runOne (line : Int) (source : String) : EStateM Fault Console Unit := fun c =>
  let session := c.session
  let c := { c with report := c.report.registerLine session.path source line }
  match onWorld (runSource session.settings source session.env) c with
  | .error fault c => .error fault (c.dequeue line)
  | .ok value c =>
    let c := (c.changeSession fun s => { s with results := s.results ++ [value] }).dequeue line
    .ok () { c with report := c.report.removeLine session.path }

/-- Runs sources in order, up to the first that fails. -/
def runAll : List (Int × String) → EStateM Fault Console Unit
  | [] => pure ()
  | (line, source) :: rest => do
    runOne line source
    runAll rest

/-- Runs the queued sources of the session.  On the command line each leaves the queue as it runs; a
    script file keeps its queue until all have succeeded. -/
def run : EStateM Fault Console Unit := do
  runAll (← get).session.queue
  modify fun c => c.changeSession fun s => if s.interactive then s else { s with queue := [] }

/-- Deals with an incident: the report is written to standard error. -/
def handle (c : Console) (incident : Incident) : Verdict × Console :=
  let (text, verdict, report) := c.report.handle c.world.painter incident
  (verdict, { c with report, world := { c.world with errors := c.world.errors ++ text } })

end Console

end ArenaLisp
