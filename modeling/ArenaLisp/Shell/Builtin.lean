import ArenaLisp.Shell.Expansion
import ArenaLisp.Shell.Utility

/-!
# Commands of the shell itself

Commands that change the state of the shell: its variables, arguments, directory, switches and what
happens next.  Those that run other commands take a way to run them as an argument.

## Main definitions

- `Runner`: ways to run a text, a command and words.
- `isSpecial`: the commands whose assignments stay.
- `readFields`: a line cut into the values of variables.
- **`builtin?`**: a command of the shell by name.
-/

namespace ArenaLisp.Shell

/-- Ways to run the text of a command line, a command, and a command given by its words, with or
    without regard to functions. -/
structure Runner where
  source : Octets → Act Unit
  command : Command → Act Unit
  words : Bool → List Octets → Act Unit

/-- The commands whose assignments stay, and whose failure ends the shell. -/
def specialNames : List String :=
  [":", ".", "break", "continue", "eval", "exec", "exit", "export", "readonly", "return", "set",
    "shift", "times", "trap", "unset"]

/-- The other commands of the shell. -/
def regularNames : List String :=
  ["cd", "pwd", "read", "local", "command", "type", "echo", "printf", "test", "[", "true", "false",
    "umask", "wait", "kill", "hash", "alias", "unalias", "getopts", "ulimit", "jobs", "bg", "fg"]

/-- The words with a meaning of their own at the start of a command. -/
def keywords : List String :=
  ["if", "then", "else", "elif", "fi", "for", "while", "until", "do", "done", "case", "esac", "in",
    "\x7b", "\x7d", "!"]

/-- The name and the value of an assignment given as one word. -/
def splitAssignment (word : Octets) : Octets × Option Octets :=
  let name := word.takeWhile (· ≠ '=')
  (name, if name.length < word.length then some (word.drop (name.length + 1)) else none)

/-- A failure of a command of the shell that does not end it. -/
def mishap (message : Octets) (status : Nat) : Act Unit := do
  complain message
  setStatus status

/-- The number that an argument stands for. -/
def count? (text : Octets) : Option Nat :=
  if Decimal.isDigits text then some (Decimal.digitsValue text) else none

/-! ## Variables -/

/-- Variables given values and marks. -/
def declare (mark : Octets → Act Unit) (args : List Octets) : Act Unit := do
  args.forM fun word => do
    let (name, value) := splitAssignment word
    if ← goesOn then
      if isName name then
        match value with
        | some value => assignVariable name value
        | none => pure ()
        mark name
      else abandon (octets "export: " ++ name ++ octets ": bad variable name")
  if ← goesOn then setStatus 0

/-- Marks a variable as a constant. -/
def fixVariable (name : Octets) : Act Unit :=
  modify fun m => { m with constants := name :: m.constants }

/-- Keeps the value that a variable has outside of the function that runs. -/
def keepOuter (name : Octets) : Act Unit :=
  modify fun m =>
    match m.saved with
    | frame :: rest =>
      if (frame.get? name).isSome then m
      else { m with saved := frame.put name (m.value? name) :: rest }
    | [] => m

/-- Variables of the function that runs. -/
def declareLocal (args : List Octets) : Act Unit := do
  if (← get).saved.isEmpty then abandon (octets "local: not in a function")
  else
    args.forM fun word => do
      let (name, value) := splitAssignment word
      keepOuter name
      match value with
      | some value => assignVariable name value
      | none => pure ()
    setStatus 0

/-- Variables or functions taken away. -/
def unset (args : List Octets) : Act Unit := do
  let isFunction := args.head? = some ['-', 'f']
  let names := args.filter fun arg => arg ≠ ['-', 'f'] && arg ≠ ['-', 'v']
  names.forM fun name =>
    if isFunction then modify fun m => { m with functions := m.functions.erase name }
    else do
      if (← get).constants.contains name then
        abandon (octets "unset: " ++ name ++ octets ": is read only")
      else unsetVariable name
  if ← goesOn then setStatus 0

/-- A switch turned on or off by its letter. -/
def turn (isOn : Bool) (letter : Char) (s : Switches) : Switches :=
  match letter with
  | 'e' => { s with stopsOnFailure := isOn }
  | 'u' => { s with refusesUnset := isOn }
  | 'f' => { s with keepsPatterns := isOn }
  | _ => s

/-- The letter of a switch with a long name. -/
def switchLetter (name : Octets) : Char :=
  match String.ofList name with
  | "errexit" => 'e'
  | "nounset" => 'u'
  | "noglob" => 'f'
  | _ => 'x'

/-- Switches turned, and arguments replaced if there are any left. -/
def setOptions : List Octets → Act Unit
  | [] => setStatus 0
  | ['-', '-'] :: rest => do
    modify fun m => { m with arguments := rest }
    setStatus 0
  | (sign :: 'o' :: []) :: name :: rest => do
    modify fun m => { m with switches := turn (sign = '-') (switchLetter name) m.switches }
    setOptions rest
  | (sign :: letter :: letters) :: rest => do
    if sign = '-' || sign = '+' then
      let turnAll (s : Switches) : Switches :=
        (letter :: letters).foldl (fun s c => turn (sign = '-') c s) s
      modify fun m => { m with switches := turnAll m.switches }
      setOptions rest
    else
      modify fun m => { m with arguments := (sign :: letter :: letters) :: rest }
      setStatus 0
  | rest => do
    modify fun m => { m with arguments := rest }
    setStatus 0

/-- Arguments dropped from the front. -/
def shift (args : List Octets) : Act Unit := do
  let count := (args.head?.bind count?).getD 1
  if (← get).arguments.length < count then abandon (octets "shift: can't shift that many")
  else
    modify fun m => { m with arguments := m.arguments.drop count }
    setStatus 0

/-! ## Lines -/

/-- A line with the characters marked that a backslash protects; the mark of a line that goes on is
    a backslash at its end. -/
def protect : Octets → Field
  | [] => []
  | '\\' :: c :: rest => (c, true) :: protect rest
  | ['\\'] => []
  | c :: rest => (c, false) :: protect rest

/-- Whether a line ends in a backslash that protects the line feed. -/
def goesOnNextLine (line : Octets) : Bool := (line.reverse.takeWhile (· = '\\')).length % 2 = 1

/-- A line, joined with those that follow it as long as each ends in a backslash; at most `fuel` of
    them. -/
def takeJoined : Nat → Act (Field × Bool)
  | 0 => return ([], false)
  | fuel + 1 => do
    let (line, hasFeed) ← takeLine 0
    if goesOnNextLine line && hasFeed then
      let (more, hasFeed) ← takeJoined fuel
      return (protect line.dropLast ++ more, hasFeed)
    else return (protect line, hasFeed)

/-- Whether a character of a line is a separator, and a blank one. -/
def isSeparator (separators : Octets) : Char × Bool → Bool
  | (c, isProtected) => !isProtected && separators.contains c

/-- Whether a character of a line is a blank separator. -/
def isBlankSeparator (separators : Octets) (item : Char × Bool) : Bool :=
  isSeparator separators item && isSpace item.1

/-- A line cut into the values of so many variables: the last one gets all that is left, without
    blanks at its end. -/
def readFields (separators : Octets) : Nat → Field → List Octets
  | 0, _ => []
  | 1, line =>
    let line := line.dropWhile (isBlankSeparator separators)
    let kept := (line.reverse.dropWhile (isBlankSeparator separators)).reverse
    let fields := Field.text kept
    let isLone := (kept.filter (isSeparator separators)).length = 1 &&
      (kept.getLast?.any (isSeparator separators))
    [if isLone then fields.dropLast else fields]
  | names + 2, line =>
    let line := line.dropWhile (isBlankSeparator separators)
    let value := line.takeWhile fun item => !isSeparator separators item
    let rest := (line.drop value.length).dropWhile (isBlankSeparator separators)
    let rest := match rest with
      | item :: more => if isSeparator separators item then more else rest
      | [] => []
    Field.text value :: readFields separators (names + 1) rest

/-- Reads a line into variables; the status tells whether it was complete. -/
def readInto (args : List Octets) : Act Unit := do
  let isRaw := args.contains ['-', 'r']
  let names := args.filter (· ≠ ['-', 'r'])
  if names.isEmpty then mishap (octets "read: arg count") 2
  else
    let (line, hasFeed) ←
      if isRaw then do
        let (line, hasFeed) ← takeLine 0
        pure (line.map fun c => (c, false), hasFeed)
      else takeJoined 1000
    let values := readFields (← get).separators names.length line
    (names.zip values).forM fun (name, value) => assignVariable name value
    if ← goesOn then setStatus (if hasFeed then 0 else 1)

/-! ## Directories and names -/

/-- Changes the directory at hand. -/
def changeDirectory (args : List Octets) : Act Unit := do
  let args := args.filter fun arg => arg ≠ ['-', 'L'] && arg ≠ ['-', 'P'] && arg ≠ ['-', '-']
  let m ← get
  let path := (args.head? <|> m.value? (octets "HOME")).getD []
  if path.isEmpty then setStatus 0
  else
    match m.files.resolve (pathFrom m.here path) with
    | .ok place =>
      if m.files.entryAt place = some .directory then
        modify fun m => { m with here := place }
        setStatus 0
      else mishap (octets "cd: can't cd to " ++ path) 2
    | .error _ => mishap (octets "cd: can't cd to " ++ path) 2

/-- What a name stands for at the start of a command. -/
inductive Meaning where
  | keyword
  | function
  | builtin (isSpecial : Bool)
  | utility
  | unknown
  deriving Repr, DecidableEq

/-- Whether utilities are found: the directories in which they stand are searched. -/
def Machine.findsUtilities (m : Machine) : Bool :=
  match m.value? (octets "PATH") with
  | none => true
  | some path =>
    (Text.pieces [':'] path).any fun directory =>
      [octets "/bin", octets "/usr/bin", octets "/bin/", octets "/usr/bin/"].contains directory

/-- The name of a utility that is given by its path. -/
def utilityName (name : Octets) : Octets :=
  [octets "/usr/bin/", octets "/bin/"].foldl
    (fun name front => if front.isPrefixOf name then name.drop front.length else name) name

/-- The utilities that the shell runs itself, because they run other commands. -/
def runningNames : List String := ["sh", "dash", "env", "xargs", "which"]

/-- Whether a name is that of a utility. -/
def Machine.isUtility (m : Machine) (name : Octets) : Bool :=
  let plain := utilityName name
  (m.findsUtilities || plain ≠ name) && !plain.contains '/' &&
    (runningNames.contains (String.ofList plain) || (utility? (m.request plain [])).isSome)

/-- What a name stands for. -/
def Machine.meaning (m : Machine) (name : Octets) : Meaning :=
  let text := String.ofList name
  if keywords.contains text then .keyword
  else if (m.functions.get? name).isSome then .function
  else if specialNames.contains text then .builtin true
  else if regularNames.contains text then .builtin false
  else if m.isUtility name then .utility
  else .unknown

/-- The path of a utility. -/
def utilityPath (name : Octets) : Octets :=
  if name.contains '/' then name else octets "/usr/bin/" ++ name

/-- Tells what a name stands for, briefly or in a sentence. -/
def describeName (isBrief : Bool) (name : Octets) : Act Unit := do
  let say (text : Octets) : Act Unit := do
    write 1 (text ++ ['\n'])
    setStatus 0
  match (← get).meaning name with
  | .keyword => say (if isBrief then name else name ++ octets " is a shell keyword")
  | .function => say (if isBrief then name else name ++ octets " is a shell function")
  | .builtin true => say (if isBrief then name else name ++ octets " is a special shell builtin")
  | .builtin false => say (if isBrief then name else name ++ octets " is a shell builtin")
  | .utility =>
    say (if isBrief then utilityPath name else name ++ octets " is " ++ utilityPath name)
  | .unknown => do
    if !isBrief then write 1 (name ++ octets ": not found\n")
    setStatus 127

/-! ## All builtins -/

/-- Ends the shell, a loop or a function, with a status if one is given. -/
def leaveWith (flow : Flow) (name : String) (args : List Octets) : Act Unit := do
  match args with
  | [] => setFlow flow
  | text :: _ =>
    match count? text with
    | some status => do
      setStatus (status % 256)
      setFlow flow
    | none => abandon (octets (name ++ ": Illegal number: ") ++ text)

/-- The number of loops that a command is about. -/
def levels (args : List Octets) : Nat := max 1 ((args.head?.bind count?).getD 1)

/-- Runs a file in the shell itself. -/
def runFile (run : Runner) (args : List Octets) : Act Unit := do
  match args with
  | [] => abandon (octets ".: filename argument required")
  | path :: _ =>
    let m ← get
    match m.files.read (pathFrom m.here path) with
    | .ok bytes =>
      if path.contains '/' then run.source (ofBytes bytes)
      else abandon (octets ".: " ++ path ++ octets ": not found")
    | .error _ => abandon (octets ".: cannot open " ++ path ++ octets ": No such file")

/-- The command of the shell with a name; one that gives words another meaning runs them. -/
def builtin? (run : Runner) (name : Octets) (args : List Octets) : Option (Act Unit) :=
  match String.ofList name with
  | ":" => some (setStatus 0)
  | "exit" => some (leaveWith .exit "exit" args)
  | "return" => some (leaveWith .back "return" args)
  | "break" => some (setFlow (.leave (levels args)))
  | "continue" => some (setFlow (.again (levels args)))
  | "eval" =>
    some do
      setStatus 0
      run.source (List.intercalate [' '] args)
  | "." => some (runFile run args)
  | "exec" =>
    some do
      if args.isEmpty then setStatus 0
      else
        run.words false args
        setFlow .exit
  | "export" => some (declare exportVariable (args.filter (· ≠ ['-', 'p'])))
  | "readonly" => some (declare fixVariable (args.filter (· ≠ ['-', 'p'])))
  | "set" => some (setOptions args)
  | "shift" => some (shift args)
  | "unset" => some (unset args)
  | "trap" =>
    some do
      match args with
      | action :: signals =>
        if signals.any fun s => s = ['0'] || s = octets "EXIT" then
          modify fun m => { m with onExit := if action = ['-'] then [] else action }
      | [] => pure ()
      setStatus 0
  | "times" | "wait" | "hash" | "alias" | "unalias" | "jobs" | "kill" | "ulimit" =>
    some (setStatus 0)
  | "umask" =>
    some do
      if args.isEmpty then write 1 (octets "0022\n")
      setStatus 0
  | "cd" | "chdir" => some (changeDirectory args)
  | "pwd" =>
    some do
      write 1 ('/' :: withoutFinal (octets (placeFront (← get).here)) ++ ['\n'])
      setStatus 0
  | "read" => some (readInto args)
  | "local" => some (declareLocal args)
  | "type" => some (args.forM (describeName false))
  | "command" =>
    some do
      match args with
      | ['-', 'v'] :: name :: _ => describeName true name
      | ['-', 'V'] :: name :: _ => describeName false name
      | ['-', 'p'] :: words => run.words false words
      | [] => setStatus 0
      | words => run.words false words
  | _ => none
where
  /-- A path without a slash at its end. -/
  withoutFinal (path : Octets) : Octets :=
    if path.getLast? = some '/' then path.dropLast else path

end ArenaLisp.Shell
