import ArenaLisp.Arena
import ArenaLisp.Platform

/-!
# The world of a run

Everything a script can observe or change: the arena of scopes, standard input and output, the
files; and the platform it runs on.  A run is a computation on a world that ends in a value or in a
fault; in either case the world it leaves behind is the one in which the next run starts.

## Main definitions

- `World`: the state of a run.
- `Run`: a computation on a world.
- `Run.guarded`: a computation followed by a change of the world, however it ends.
- `Run.lookup`, `Run.define`, `Run.capture`, `Run.openScope`: the arena as runs use it.
- `Run.print`, `Run.readLine`, `Run.readText`: the outside as runs use it.
- `Run.log`: the trace of evaluation that is written on request.
-/

namespace ArenaLisp

/-- The state of a run: the arena, the standard streams (`input` is what has not been read yet, the
    others are what the program has written), what command lines have written to the standard error
    that they share with the program, the files, the variables of the environment, whether steps are
    traced, and the platform. -/
structure World where
  arena : Arena := Arena.fresh
  input : Input := {}
  output : String := ""
  errors : String := ""
  shellErrors : List UInt8 := []
  files : FileTree := {}
  environ : List (String × String) := []
  verbose : Bool := false
  platform : Platform := Platform.emulated

/-- A computation on a world.  What it did before a fault stays done. -/
abbrev Run := EStateM Fault World

/-- The parts of the program that trace their steps. -/
inductive Tracer where
  | evaluator
  | scopes
  | library
  deriving Repr, DecidableEq

/-- The name under which a part traces its steps. -/
def Tracer.label : Tracer → String
  | .evaluator => "frisp.pure.evaluator"
  | .scopes => "frisp.pure.environment"
  | .library => "frisp.lang.builtins"

namespace World

/-- The world after a step was traced.  The message is only put together if it is written. -/
def trace (w : World) (tracer : Tracer) (message : Unit → String) : World :=
  if w.verbose then
    { w with errors := w.errors ++ "DEBUG:" ++ tracer.label ++ ": " ++ message () ++ "\n" }
  else w

/-- The world without the scope of a handle and every scope made after it. -/
def release (w : World) (h : Handle) : World :=
  let w := w.trace .scopes fun _ => "released scope #" ++ toString h
  { w with arena := w.arena.release h }

/-- The world after a text was printed. -/
def print (w : World) (text : String) : World := { w with output := w.output ++ text }

/-- How messages are emphasised. -/
def painter (w : World) : Painter := w.platform.painter w.environ

end World

namespace Run

/-- A computation followed by a change of the world, whether it ended in a value or in a fault. -/
def guarded (after : World → World) (run : Run α) : Run α := fun w =>
  match run w with
  | .ok value w => .ok value (after w)
  | .error fault w => .error fault (after w)

/-- The outcome of a computation that does not touch the world. -/
def ofExcept (outcome : Except Fault α) : Run α :=
  match outcome with
  | .ok value => pure value
  | .error fault => throw fault

/-- Traces a step. -/
def log (tracer : Tracer) (message : Unit → String) : Run Unit :=
  modify (·.trace tracer message)

/-! ## The arena -/

/-- The innermost binding of a name. -/
def lookup (h : Handle) (name : String) : Run (Option Binding) := do
  ofExcept ((← get).arena.lookup h name |>.mapError .stray)

/-- The scope of a handle must not have been released. -/
def requireLive (h : Handle) : Run Unit := do
  if ((← get).arena.scope? h).isNone then throw (.stray .releasedScope)

/-- Binds a name to a value in the scope of a handle. -/
def define (h : Handle) (name : String) (value : Value) : Run Unit := do
  requireLive h
  modify fun w => { w with arena := w.arena.define h name value }

/-- Marks the scope of a handle as held by a lambda. -/
def capture (h : Handle) : Run Unit := do
  requireLive h
  modify fun w => { w with arena := w.arena.capture h }

/-- Adds a scope whose parent is the scope of a handle. -/
def addScope (h : Handle) : Run Handle := do
  let frame := (← get).arena.size
  modify fun w => { w with arena := w.arena.child h }
  return frame

/-- Traces that a scope was made, for which there may be no room on the stack. -/
def traceScope (h frame : Handle) (room : Bool) : Run Unit := do
  if !room then throw .recursionLimit
  log .scopes fun _ => "created scope #" ++ toString frame ++ " (parent #" ++ toString h ++ ")"

/-- Makes a scope whose parent is the scope of a handle.  The scope is there already when the step
    is traced, and stays there if there is no room on the stack for that. -/
def openScope (h : Handle) (room : Bool) : Run Handle := do
  let frame ← addScope h
  traceScope h frame room
  return frame

/-- The names bound in the scope of a handle. -/
def localNames (h : Handle) : Run (List String) := do
  ofExcept ((← get).arena.localNames h |>.mapError .stray)

/-- The names visible from a handle. -/
def allNames (h : Handle) : Run (List String) := do
  ofExcept ((← get).arena.names h |>.mapError .stray)

/-! ## The outside -/

/-- Prints a text. -/
def print (text : String) : Run Unit := modify (·.print text)

/-- Reads a line from standard input, its line feed included, or says why it cannot be had.  At the
    end there is nothing left to read and the line is empty. -/
def readLine : Run (Except InputFault (List Char)) := do
  let (line, input) := (← get).input.readLine
  modify fun w => { w with input }
  return line

/-- The text of a file, or why it cannot be had.  A path with a null character is no path at all. -/
def readText (path : String) : Run (Except FileFault (List Char)) := do
  if path.toList.contains (Char.ofNat 0) then throw (.stray .nullByte)
  return (← get).files.readText path

end Run

end ArenaLisp
