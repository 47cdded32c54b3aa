import ArenaLisp.Shell.Machine

/-!
# Utilities as functions

A utility is a function from what it is given to what it does: it gets its arguments, its input, the
files and the variables that are handed on, and it leaves behind what it wrote, a status and the
files as they are then.

## Main definitions

- `Request`: what a utility is given.
- `Effect`: what it does.
- `Request.contents`: the texts that the operands of a utility name.
- `flags`: the options among arguments.
-/

namespace ArenaLisp.Shell

/-- What a utility is given; `shellTitle` is the beginning of the messages of the shell that runs
    it. -/
structure Request where
  shellTitle : Octets
  name : Octets
  args : List Octets
  input : Octets
  inputIsFile : Bool
  files : FileTree
  here : Place
  environ : List (Octets × Octets)

/-- What a utility does: the texts it writes, those with a mark as errors, its status, the files if
    it changes them, and whether it reads its input. -/
structure Effect where
  chunks : List (Bool × Octets) := []
  status : Nat := 0
  files : Option FileTree := none
  usesInput : Bool := false

namespace Effect

/-- A text written to the output. -/
def output (text : Octets) : Effect := { chunks := [(false, text)] }

/-- A message written as an error, with a status. -/
def failure (status : Nat) (message : Octets) : Effect :=
  { chunks := [(true, message ++ ['\n'])], status }

/-- One effect after another: the later status stays if it is a failure. -/
def after (first second : Effect) : Effect :=
  { chunks := first.chunks ++ second.chunks
    status := if second.status = 0 then first.status else second.status
    files := second.files <|> first.files
    usesInput := first.usesInput || second.usesInput }

end Effect

/-- Why a path cannot be used, in the words of utilities. -/
def reason : FileFault → Octets
  | .missing _ => octets "No such file or directory"
  | .notDirectory _ => octets "Not a directory"
  | .isDirectory _ => octets "Is a directory"
  | .nameTooLong _ => octets "File name too long"
  | .malformed _ => octets "Invalid or incomplete multibyte or wide character"

/-- A text between single quotes. -/
def inQuotes (text : Octets) : Octets := '\'' :: text ++ ['\'']

namespace Request

/-- The path from the root that an operand stands for. -/
def path (r : Request) (operand : Octets) : String := pathFrom r.here operand

/-- The text that an operand names; a hyphen names the input. -/
def read (r : Request) (operand : Octets) : Except FileFault Octets :=
  if operand = ['-'] then .ok r.input else (r.files.read (r.path operand)).map ofBytes

/-- A message that starts with the name of the utility. -/
def naming (r : Request) (message : Octets) : Octets := r.name ++ octets ": " ++ message

/-- Whether operands name the input. -/
def namesInput (operands : List Octets) : Bool := operands.isEmpty || operands.contains ['-']

/-- The texts that operands name, each with its operand, or a message for one that cannot be read.
    Without operands that is the input. -/
def contents (r : Request) (operands : List Octets) (complaint : Octets → FileFault → Octets) :
    List (Except Octets (Octets × Octets)) :=
  (if operands.isEmpty then [['-']] else operands).map fun operand =>
    match r.read operand with
    | .ok text => .ok (operand, text)
    | .error fault => .error (r.naming (complaint operand fault) ++ ['\n'])

/-- A message that names an operand and what is wrong with it. -/
def plainComplaint (operand : Octets) (fault : FileFault) : Octets :=
  operand ++ octets ": " ++ reason fault

/-- A message about an operand that cannot be opened. -/
def openComplaint (operand : Octets) (fault : FileFault) : Octets :=
  match fault with
  | .isDirectory _ => octets "error reading " ++ inQuotes operand ++ octets ": " ++ reason fault
  | _ => octets "cannot open " ++ inQuotes operand ++ octets " for reading: " ++ reason fault

/-- What a utility does that goes through its operands one by one. -/
def perFile (r : Request) (operands : List Octets) (status : Nat)
    (complaint : Octets → FileFault → Octets) (f : Octets → Octets → Octets) : Effect :=
  let found := r.contents operands complaint
  { chunks := found.map fun
      | .ok (operand, text) => (false, f operand text)
      | .error message => (true, message)
    status := if found.all Except.isOk then 0 else status
    usesInput := namesInput operands }

/-- What a utility does that makes one text of all its operands.  Messages come first. -/
def together (r : Request) (operands : List Octets) (status : Nat)
    (complaint : Octets → FileFault → Octets) (f : List Octets → Octets) : Effect :=
  let found := r.contents operands complaint
  let errors := found.flatMap fun
    | .ok _ => []
    | .error message => message
  let texts := found.filterMap fun
    | .ok (_, text) => some text
    | .error _ => none
  { chunks := [(true, errors), (false, f texts)]
    status := if errors.isEmpty then 0 else status
    usesInput := namesInput operands }

end Request

/-! ## Options -/

/-- Options with their values, and operands. -/
structure Flags where
  options : List (Char × Octets) := []
  operands : List Octets := []
  deriving Repr

namespace Flags

/-- Whether an option is given. -/
def has (f : Flags) (option : Char) : Bool := f.options.any fun (other, _) => other = option

/-- The last value of an option. -/
def value? (f : Flags) (option : Char) : Option Octets :=
  (f.options.reverse.find? fun (other, _) => other = option).map (·.2)

/-- Options in front of others. -/
def inFront (options : List (Char × Octets)) (f : Flags) : Flags :=
  { f with options := options ++ f.options }

/-- An operand in front of others. -/
def operandInFront (operand : Octets) (f : Flags) : Flags :=
  { f with operands := operand :: f.operands }

end Flags

/-- Why options cannot be read: one is not known, or one has no value. -/
inductive FlagFault where
  | unknown (option : Char)
  | incomplete (option : Char)
  deriving Repr, DecidableEq

/-- The wording of a fault. -/
def FlagFault.message : FlagFault → Octets
  | .unknown option => octets "invalid option -- " ++ inQuotes [option]
  | .incomplete option => octets "option requires an argument -- " ++ inQuotes [option]

/-- The options in one argument: letters, of which one that takes a value ends the argument.  The
    outcome is a fault, or the options and the letter that still waits for its value. -/
def optionLetters (plain valued : String) : Octets →
    Except FlagFault (List (Char × Octets) × Option Char)
  | [] => .ok ([], none)
  | c :: rest =>
    if plain.toList.contains c then
      (optionLetters plain valued rest).map fun (more, waiting) => ((c, []) :: more, waiting)
    else if valued.toList.contains c then
      if rest.isEmpty then .ok ([], some c) else .ok ([(c, rest)], none)
    else .error (.unknown c)

/-- The options among arguments, wherever they stand, and the operands.  Two hyphens end the
    options. -/
def flags (plain valued : String) : List Octets → Except FlagFault Flags
  | [] => .ok {}
  | ['-', '-'] :: rest => .ok { operands := rest }
  | ('-' :: c :: letters) :: rest =>
    match optionLetters plain valued (c :: letters), rest with
    | .error fault, _ => .error fault
    | .ok (options, none), rest => (flags plain valued rest).map (Flags.inFront options)
    | .ok (options, some c), value :: rest =>
      (flags plain valued rest).map (Flags.inFront (options ++ [(c, value)]))
    | .ok (_, some c), [] => .error (.incomplete c)
  | operand :: rest => (flags plain valued rest).map (Flags.operandInFront operand)

/-- What a utility does on options that cannot be read. -/
def Request.refuseFlags (r : Request) (status : Nat) (fault : FlagFault) : Effect :=
  .failure status (r.naming fault.message ++ octets "\nTry '" ++ r.name ++
    octets " --help' for more information.")

/-- A utility that works on its options and operands; options that cannot be read make it fail. -/
def Request.withFlags (r : Request) (plain valued : String) (status : Nat) (f : Flags → Effect) :
    Effect :=
  match flags plain valued r.args with
  | .ok found => f found
  | .error fault => r.refuseFlags status fault

end ArenaLisp.Shell
