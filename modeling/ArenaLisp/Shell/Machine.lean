import ArenaLisp.Files
import ArenaLisp.Shell.Arithmetic
import ArenaLisp.Shell.Command

/-!
# The state of a command line that runs

Everything a command can observe or change: variables, arguments, functions, the directory at hand,
the files, and the streams that its numbered channels lead to.  A subshell works on a copy, but the
files and the streams are those of all.

## Main definitions

- `Channel`: where a numbered channel leads to.
- `Flow`: what happens next.
- `Machine`: the state.
- `Act`: a computation on the state.
- `write`, `takeInput`, `takeLine`: the channels as commands use them.
- `isolated`: a computation on a copy.
-/

namespace ArenaLisp.Shell

/-- Where a numbered channel leads to: to a stream, to the end of a file, to the device that
    swallows everything, or nowhere. -/
inductive Channel where
  | stream (index : Nat)
  | file (place : List String)
  | device
  | closed
  deriving Repr, DecidableEq

/-- What has been written to a stream and not been read from it, and whether that comes from a
    file. -/
structure Stream where
  content : Octets := []
  isFile : Bool := false
  deriving Repr

/-- What happens next: the next command, the end of the shell, the end of some loops, the next round
    of the last of some loops, or the end of a function. -/
inductive Flow where
  | next
  | exit
  | leave (levels : Nat)
  | again (levels : Nat)
  | back
  deriving Repr, DecidableEq

/-- The switches of a shell: to stop at a failure, to refuse variables that are not set, and to keep
    patterns as they are. -/
structure Switches where
  stopsOnFailure : Bool := false
  refusesUnset : Bool := false
  keepsPatterns : Bool := false
  deriving Repr

/-- The state of a command line that runs.  `saved` holds, for each function that runs, the values
    that its local variables had before; `isTested` tells that the outcome of the command at hand is
    asked for by another one, `hasCaptured` that the output of a command has been put in; `onExit`
    is run at the end. -/
structure Machine where
  files : FileTree := {}
  streams : Array Stream := #[]
  channels : Ordered Nat Channel := []
  bindings : Arith.Variables := []
  exported : List Octets := []
  constants : List Octets := []
  name : Octets := octets "/bin/sh"
  arguments : List Octets := []
  functions : Ordered Octets Command := []
  saved : List (Ordered Octets (Option Octets)) := []
  here : Place := .root
  status : Nat := 0
  flow : Flow := .next
  switches : Switches := {}
  isTested : Bool := false
  hasCaptured : Bool := false
  onExit : Octets := []

/-- A computation on the state. -/
abbrev Act := StateM Machine

/-! ## Paths -/

/-- The beginning of a path from the root to a place. -/
def placeFront : Place → String
  | .inside names => String.join (names.map (· ++ "/"))
  | _ => "../"

/-- A path from the directory at hand as a path from the root. -/
def pathFrom (here : Place) (path : Octets) : String :=
  if path.isEmpty || path.head? = some '/' then textOf path else placeFront here ++ textOf path

/-! ## Channels -/

/-- Where a channel leads to. -/
def Machine.channel (m : Machine) (number : Nat) : Channel := (m.channels.get? number).getD .closed

/-- The machine with a stream added, and its index. -/
def openStream (stream : Stream) : Act Nat := fun m =>
  (m.streams.size, { m with streams := m.streams.push stream })

/-- The machine with a text written to a channel. -/
def Machine.write (m : Machine) (number : Nat) (text : Octets) : Machine :=
  match m.channel number with
  | .stream index =>
    { m with streams := m.streams.modify index fun stream =>
        { stream with content := stream.content ++ text } }
  | .file place =>
    let before := match m.files.find place with
      | some (.file bytes) => bytes
      | _ => []
    { m with files := m.files.set place (.file (before ++ bytesOf text)) }
  | .device | .closed => m

/-- Writes a text to a channel. -/
def write (number : Nat) (text : Octets) : Act Unit := modify (·.write number text)

/-- The stream that a channel reads from. -/
def Machine.source (m : Machine) (number : Nat) : Stream :=
  match m.channel number with
  | .stream index => m.streams.getD index {}
  | _ => {}

/-- The machine with other contents left to read from a channel. -/
def Machine.leave (m : Machine) (number : Nat) (content : Octets) : Machine :=
  match m.channel number with
  | .stream index =>
    { m with streams := m.streams.modify index fun stream => { stream with content } }
  | _ => m

/-- Takes all that is left to read from a channel. -/
def takeInput (number : Nat) : Act Octets := fun m =>
  ((m.source number).content, m.leave number [])

/-- Takes a line from a channel, without its line feed, and tells whether it had one. -/
def takeLine (number : Nat) : Act (Octets × Bool) := fun m =>
  let content := (m.source number).content
  let line := content.takeWhile (· ≠ '\n')
  let rest := content.drop line.length
  ((line, !rest.isEmpty), m.leave number rest.tail)

/-! ## Variables -/

/-- The value of a variable. -/
def Machine.value? (m : Machine) (name : Octets) : Option Octets := m.bindings.get? name

/-- The characters at which values are cut into fields. -/
def Machine.separators (m : Machine) : Octets :=
  (m.value? (octets "IFS")).getD [' ', '\t', '\n']

/-- Gives a variable a value. -/
def setVariable (name value : Octets) : Act Unit :=
  modify fun m => { m with bindings := m.bindings.put name value }

/-- Takes the value of a variable away. -/
def unsetVariable (name : Octets) : Act Unit :=
  modify fun m =>
    { m with bindings := m.bindings.erase name, exported := m.exported.filter (· ≠ name) }

/-- Hands a variable on to the commands that are run. -/
def exportVariable (name : Octets) : Act Unit :=
  modify fun m =>
    if m.exported.contains name then m else { m with exported := m.exported ++ [name] }

/-- The variables that are handed on to the commands that are run. -/
def Machine.environ (m : Machine) : List (Octets × Octets) :=
  m.bindings.filter fun (name, _) => m.exported.contains name

/-! ## Status and flow -/

/-- Leaves a status behind. -/
def setStatus (status : Nat) : Act Unit := modify fun m => { m with status }

/-- Changes what happens next. -/
def setFlow (flow : Flow) : Act Unit := modify fun m => { m with flow }

/-- The beginning of the messages of the shell. -/
def Machine.title (m : Machine) : Octets := m.name ++ octets ": 1: "

/-- Writes a message of the shell. -/
def complain (message : Octets) : Act Unit :=
  modify fun m => m.write 2 (m.title ++ message ++ ['\n'])

/-- Writes a message of the shell and ends it. -/
def abandon (message : Octets) : Act Unit := do
  complain message
  setStatus 2
  setFlow .exit

/-- Gives a variable a value, unless it is a constant. -/
def assignVariable (name value : Octets) : Act Unit := do
  if (← get).constants.contains name then abandon (name ++ octets ": is read only")
  else setVariable name value

/-- Whether the next command is to be run. -/
def goesOn : Act Bool := do return (← get).flow = .next

/-- **A computation on a copy of the state**: what it does to the files and to the streams stays,
    and so does its status. -/
def isolated (act : Act Unit) : Act Unit := do
  let before ← get
  act
  modify fun m =>
    { before with files := m.files, streams := m.streams, status := m.status }

/-- A computation with other channels. -/
def withChannels (channels : Ordered Nat Channel) (act : Act Unit) : Act Unit := do
  let before := (← get).channels
  modify fun m => { m with channels }
  act
  modify fun m => { m with channels := before }

/-- A computation whose outcome is asked for, so that its failure is none of the shell. -/
def tested (act : Act Unit) : Act Unit := do
  let before := (← get).isTested
  modify fun m => { m with isTested := true }
  act
  modify fun m => { m with isTested := before }

end ArenaLisp.Shell
