import ArenaLisp.Fault.Wording
import ArenaLisp.Ordered

/-!
# Reporting failures

A failure is reported on standard error: where it happened, if that is known, and what it is.  The
places come from the traceback, which holds for each file the source that is being run.  A report
is either fatal, and ends the program, or not, and clears the traceback.

## Main definitions

- `Incident`: what a report is about.
- `Report`: the traceback, and whether failures are fatal.
- `Report.text`: the lines of a report.
- **`Report.handle`**: what is written about an incident and what becomes of it.
-/

namespace ArenaLisp

/-- What can interrupt a run: the keyboard, a request to leave with a code, too deep a recursion, an
    error of the language, and any other failure, with its label and message. -/
inductive Incident where
  | interrupt
  | exit (code : Int)
  | recursion
  | language (d : Diagnostic)
  | stray (label message : String)
  deriving Repr, DecidableEq

/-- A fault as an incident. -/
def Fault.incident (fault : Fault) : Incident :=
  match fault.diagnostic?, fault.stray? with
  | some d, _ => .language d
  | none, some other => .stray other.label other.message
  | none, none => .recursion

/-- The state of reporting: whether failures end the program, and for each file, in order of
    arrival, the source that is being run with the number of its first line. -/
structure Report where
  fatal : Bool := true
  traceback : Ordered String (Option (String × Int)) := []
  deriving Repr, DecidableEq

/-- What becomes of an incident: it is dealt with, the program is left with a code, or it goes on to
    whoever called. -/
inductive Verdict where
  | suppressed
  | exit (code : Int)
  | escapes
  deriving Repr, DecidableEq

namespace Report

/-- The report with a file of which no source is being run. -/
def registerFile (r : Report) (path : String) : Report :=
  { r with traceback := Ordered.put path none r.traceback }

/-- The report with the source that is being run. -/
def registerLine (r : Report) (path source : String) (line : Int) : Report :=
  { r with traceback := Ordered.put path (some (source, line)) r.traceback }

/-- The report without the source of a file. -/
def removeLine (r : Report) (path : String) : Report := r.registerFile path

/-- The places of a traceback: a file, the number of a line and the source there.  An empty source
    is no place. -/
def places (r : Report) : List (String × String × Int) :=
  r.traceback.filterMap fun (path, entry) =>
    match entry with
    | some (source, line) => if source.isEmpty then none else some (path, source, line)
    | none => none

/-- The lines that show a place. -/
def placeText (place : String × String × Int) : String :=
  let (path, source, line) := place
  "  File '" ++ path ++ "', line " ++ toString line ++ ":\n    " ++ source ++ "\n"

/-- The lines of a report: the places, under a title if there are several, and the message. -/
def text (r : Report) (painter : Painter) (d : Diagnostic) : String :=
  let places := r.places
  let title := if 1 < places.length then "Traceback:\n" else ""
  let mark := if d.internal then painter.paint (some .red) "[internal] " else ""
  title ++ String.join (places.map placeText) ++ mark ++
    painter.paint (some .red) "error: " ++ d.painted painter ++ "\n"

/-- The report with no source being run. -/
def clear (r : Report) : Report :=
  { r with traceback := r.traceback.map fun (path, _) => (path, none) }

/-- Writes a report; a fatal one leaves the program with code 1. -/
def throw (r : Report) (painter : Painter) (d : Diagnostic) (verdict : Verdict) :
    String × Verdict × Report :=
  if r.fatal then (r.text painter d, .exit 1, r) else (r.text painter d, verdict, r.clear)

/-- The diagnostic of a failure that is no error of the language. -/
def internalFailure (label message : String) : Diagnostic :=
  { kind := .generic
    parts := [.plain "unknown error: '", .shown label, .plain ": ", .shown message, .plain "'"]
    internal := true }

/-- **Deals with an incident**: the text written, what becomes of it, and the report afterwards.
    A request to leave passes through; too deep a recursion is always fatal; a failure that is no
    error of the language is reported and goes on. -/
def handle (r : Report) (painter : Painter) : Incident → String × Verdict × Report
  | .interrupt =>
    r.throw painter { kind := .generic, parts := [.plain "keyboard interrupt"] } .suppressed
  | .exit code => ("", .exit code, r)
  | .recursion =>
    { r with fatal := true }.throw painter
      { kind := .generic, parts := [.plain "maximum recursion depth exceeded"] } .suppressed
  | .language d => r.throw painter d .suppressed
  | .stray label message => r.throw painter (internalFailure label message) .escapes

end Report

end ArenaLisp
