import ArenaLisp.Session
import ArenaLisp.Text.Sorted

/-!
# The interactive prompt

Each line that is typed is a command of the prompt or part of a source.  A source that is open at
the end of a line is continued by the next one; once it is complete it is run in the session and its
value is printed.

## Main definitions

- `Prompt`: the console with the source that is still open.
- `Prompt.Command`: what a typed line asks for, read by `Prompt.command`.
- `Prompt.complete`: a complete source, run and reported on.
- `Prompt.enter`: one typed line.
- `Prompt.turn`: a line read from standard input and acted on.
- `Prompt.loop`: lines read from standard input until the prompt is left.
- `Prompt.completions`, `Prompt.nameCompletions`: the names that complete a text.
-/

namespace ArenaLisp

/-- What is shown before the first line of a source. -/
def Prompt.firstMark : String := "> "

/-- What is shown before a line that goes on with an open source. -/
def Prompt.furtherMark : String := ". "

/-- The prompt: its console, the source that is still open, empty if there is none, what is shown
    before the next line is read, and the number of source lines typed so far. -/
structure Prompt where
  console : Console
  pending : String := ""
  mark : String := Prompt.firstMark
  lineNumber : Nat := 0

namespace Prompt

/-- What is printed when the prompt starts. -/
def intro : String :=
  "frisp interpreter :: Python backend\nType '?' or 'help' for more information."

/-- The short introduction to the language. -/
def helpText : String :=
  "Welcome to the frisp interpreter!\n\n" ++
  "frisp is a small Lisp: everything is a parenthesized form such as '(+ 1 2)'.\n" ++
  "Bind values with '(define r 10)' and build functions with '(lambda (x) (* x x))'.\n" ++
  "Forms may span several lines: the prompt changes to '. ' until the form is closed.\n\n" ++
  "Try '(global-env)' to list every bound name, or press tab to complete one."

/-! ## Commands -/

/-- What a typed line asks for. -/
inductive Command where
  | nothing
  | help
  | leave
  | endOfInput
  | source (line : List Char)
  deriving Repr, DecidableEq

/-- A character of the name of a command. -/
def isCommandChar (c : Char) : Bool := c.isAlphanum || c = '_'

/-- Reads a typed line, stripped of blanks.  A leading `?` asks for help; a leading name of a
    command is that command whatever follows; anything else is source. -/
def command (line : List Char) : Command :=
  match Text.strip line with
  | [] => .nothing
  | '?' :: _ => .help
  | line =>
    let name := String.ofList (line.takeWhile isCommandChar)
    if name = "help" then .help
    else if name = "exit" then .leave
    else if name = "EOF" then .endOfInput
    else .source line

/-! ## Lines -/

/-- What follows from a typed line: the next line is read, the prompt is left, the program is left
    with a code, or a fault goes on to whoever called. -/
inductive Reply where
  | next
  | stop
  | exit (code : Int)
  | escaped (fault : Fault)

/-- Queues a complete source, runs it and prints its value unless that is unit. -/
def runSourceText (source : String) (line : Nat) : EStateM Fault Console Unit := do
  modify fun c => c.changeSession fun s => s.add source line
  Console.run
  let (value, session) := (← get).session.pop
  modify fun c => { c with session }
  match value with
  | .unit => pure ()
  | value => Console.onWorld (Run.print (value.text ++ "\n"))

/-- The text that a line makes with the source that is still open. -/
def joined (pending line : String) : String :=
  if pending.isEmpty then line else pending ++ "\n" ++ line

/-- Runs a complete source whose last line has a given number.  Nothing is pending any more, and the
    mark is the first one again, however the run ends.  A failure is reported at once. -/
def complete (console : Console) (source : String) (number : Nat) : Reply × Prompt :=
  match runSourceText source number console with
  | .ok _ console => (.next, { console, lineNumber := number })
  | .error fault console =>
    let (verdict, console) := console.handle fault.incident
    let p : Prompt := { console, lineNumber := number }
    match verdict with
    | .suppressed => (.next, p)
    | .exit code => (.exit code, p)
    | .escapes => (.escaped fault, p)

/-- A line of source: it stays pending while the source is open, and the mark says so; once the
    source is complete it is run. -/
def enterSource (p : Prompt) (line : String) : Reply × Prompt :=
  let number := p.lineNumber + 1
  let source := joined p.pending line
  if isOpen source.toList then
    (.next, { p with pending := source, mark := furtherMark, lineNumber := number })
  else complete p.console source number

/-- The prompt after a text was printed. -/
def print (p : Prompt) (text : String) : Prompt :=
  { p with console := { p.console with world := p.console.world.print text } }

/-- One typed line. -/
def enter (p : Prompt) (line : List Char) : Reply × Prompt :=
  match command line with
  | .nothing => (.next, p)
  | .help => (.next, p.print (helpText ++ "\n"))
  | .leave => (.stop, p)
  | .endOfInput => (.stop, p.print "\n")
  | .source line => p.enterSource (String.ofList line)

/-! ## The loop -/

/-- Reads a line from standard input, without its line feed; at the end of the input the line says
    so. -/
def readLine (p : Prompt) : Except InputFault (List Char) × Prompt :=
  let (line, input) := p.console.world.input.readLine
  let p := { p with console := { p.console with world := { p.console.world with input } } }
  match line with
  | .ok [] => (.ok "EOF".toList, p)
  | .ok line => (.ok (if Input.isLine line then line.dropLast else line), p)
  | .error fault => (.error fault, p)

/-- Shows the mark, reads a line and acts on it.  Nobody at the prompt deals with a line that cannot
    be read. -/
def turn (p : Prompt) : Reply × Prompt :=
  match (p.print p.mark).readLine with
  | (.ok line, p) => p.enter line
  | (.error fault, p) => (.escaped (.stray fault.stray), p)

/-- Takes at most so many turns, until the prompt is left.  A turn at the end of the input leaves
    it. -/
def turnsFrom : Nat → Prompt → Reply × Prompt
  | 0, p => (.stop, p)
  | turns + 1, p =>
    match p.turn with
    | (.next, p) => turnsFrom turns p
    | outcome => outcome

/-- **Runs the prompt** until it is left.  Each turn but the last leaves less of the input, so one
    turn more than there is input suffices. -/
def loop (p : Prompt) : Reply × Prompt :=
  turnsFrom (p.console.world.input.size + 1) (p.print (intro ++ "\n"))

/-! ## Completion -/

/-- The names bound in the session's scope that start with a text, sorted. -/
def completions (p : Prompt) (text : String) : Except Fault (List String) :=
  match p.console.world.arena.names p.console.session.env with
  | .ok names => .ok (Text.sortedOnce (names.filter (Text.startsWith text)))
  | .error fault => .error (.stray fault)

/-- The names and the commands of the prompt that start with a text. -/
def nameCompletions (p : Prompt) (text : String) : Except Fault (List String) :=
  (p.completions text).map
    (· ++ ["EOF", "exit", "help"].filter (Text.startsWith text))

end Prompt

end ArenaLisp
