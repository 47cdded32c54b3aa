import ArenaLisp.Shell.Builtin
import ArenaLisp.Shell.Command.Reader

/-!
# Running command lines

A command line is read line by line, and each line is run before the next one is read.  Running is
recursive where commands hold commands, where words hold commands, and where a command runs others;
one bound on the depth of all of this makes it total.

## Main definitions

- `applyRedirections`: the channels of a command.
- `runWords`: a command given by its words.
- `runCommand`: a command of any form.
- `Job`, `runJob`: everything that can be run, with a bound on the depth.
- **`run`**: the output of a command line and the files after it.
-/

namespace ArenaLisp.Shell

/-! ## Redirections -/

/-- Leads a channel somewhere else. -/
def connect (number : Nat) (channel : Channel) : Act Bool := do
  modify fun m => { m with channels := m.channels.put number channel }
  return true

/-- Why a file cannot be opened, in the words of the shell. -/
def openingFault (isNew : Bool) : FileFault → Octets
  | .missing _ | .notDirectory _ =>
    octets (if isNew then "Directory nonexistent" else "No such file")
  | fault => reason fault

/-- Complains about a file that cannot be opened. -/
def refuseFile (isNew : Bool) (path : Octets) (fault : FileFault) : Act Bool := do
  let verb := if isNew then "cannot create " else "cannot open "
  complain (octets verb ++ path ++ octets ": " ++ openingFault isNew fault)
  return false

/-- Leads a channel to a file that is written, from its start or from its end. -/
def openForWriting (number : Nat) (isAppended : Bool) (path : Octets) : Act Bool := do
  let m ← get
  let full := pathFrom m.here path
  let before := if isAppended then (m.files.read full).toOption.getD [] else []
  match m.files.write full before with
  | .error fault => refuseFile true path fault
  | .ok files =>
    modify fun m => { m with files }
    match files.resolve full with
    | .ok (.inside place) => connect number (.file place)
    | _ => connect number .device

/-- Leads a channel to a file that is read. -/
def openForReading (number : Nat) (path : Octets) : Act Bool := do
  let m ← get
  let full := pathFrom m.here path
  match m.files.resolve full, m.files.read full with
  | .ok .device, _ => connect number .device
  | .ok _, found =>
    let index ← openStream { content := ofBytes (found.toOption.getD []), isFile := true }
    connect number (.stream index)
  | .error fault, _ => refuseFile false path fault

/-- Leads a channel to where another one leads. -/
def joinChannels (number : Nat) (target : Octets) : Act Bool := do
  match target with
  | ['-'] => connect number .closed
  | [c] =>
    if c.isDigit then
      match (← get).channel (c.toNat - '0'.toNat) with
      | .closed => do
        complain (target ++ octets ": Bad file descriptor")
        return false
      | channel => connect number channel
    else do
      abandon (octets "Syntax error: Bad fd number")
      return false
  | _ => do
    abandon (octets "Syntax error: Bad fd number")
    return false

/-- Applies redirections in order, up to the first that fails. -/
def applyRedirections (run : Runner) (fuel : Nat) : List Redirection → Act Bool
  | [] => return true
  | redirection :: rest => do
    let isDone ← match redirection with
      | .text number word => do
        let content ← expandText run.source fuel word
        let index ← openStream { content, isFile := true }
        connect number (.stream index)
      | .target number kind word => do
        let target ← expandText run.source fuel word
        if ← goesOn then
          match kind with
          | .read | .update => openForReading number target
          | .write => openForWriting number false target
          | .append => openForWriting number true target
          | .duplicate => joinChannels number target
        else pure false
    if isDone then applyRedirections run fuel rest else return false

/-! ## Commands given by words -/

/-- Ends the shell after a failure if a switch asks for it. -/
def checkFailure : Act Unit := do
  let m ← get
  if m.status ≠ 0 && m.switches.stopsOnFailure && !m.isTested && m.flow = .next then setFlow .exit

/-- Runs a function: with its own arguments, and with local variables that go away at its end. -/
def callFunction (run : Runner) (body : Command) (args : List Octets) : Act Unit := do
  let before := (← get).arguments
  modify fun m => { m with arguments := args, saved := [] :: m.saved }
  run.command body
  modify fun m =>
    let bindings := (m.saved.headD []).foldl
      (fun (bindings : Arith.Variables) (name, value) =>
        match value with
        | some value => bindings.put name value
        | none => bindings.erase name)
      m.bindings
    { m with
      arguments := before
      saved := m.saved.tail
      bindings
      flow := if m.flow = .back then .next else m.flow }

/-- The variables that every shell starts with. -/
def firstVariables : Arith.Variables :=
  [("IFS", " \t\n"), ("OPTIND", "1"), ("PS1", "# "), ("PS2", "> "), ("PS4", "+ "),
    ("PATH", "/usr/local/sbin:/usr/local/bin:/usr/sbin:/usr/bin:/sbin:/bin")].map
    fun (name, value) => (octets name, octets value)

/-- The variables of a shell that is given some. -/
def startVariables (given : List (Octets × Octets)) : Arith.Variables :=
  given.foldl
    (fun bindings (name, value) =>
      if name = octets "IFS" then bindings else bindings.put name value)
    firstVariables

/-- Runs a shell of its own, which only knows the variables that are handed on. -/
def runShell (run : Runner) (name : Octets) (args : List Octets) : Act Unit :=
  isolated do
    modify fun m =>
      { m with bindings := startVariables m.environ, functions := [], saved := [], switches := {}
               isTested := false, onExit := [], constants := [], name }
    match args with
    | ['-', 'c'] :: source :: rest => do
      modify fun m => { m with name := rest.headD name, arguments := rest.drop 1 }
      run.source source
    | ['-', 'e', 'c'] :: source :: rest => do
      modify fun m =>
        { m with name := rest.headD name, arguments := rest.drop 1
                 switches := { stopsOnFailure := true } }
      run.source source
    | path :: rest => do
      let m ← get
      match m.files.read (pathFrom m.here path) with
      | .ok bytes => do
        modify fun m => { m with name := path, arguments := rest }
        run.source (ofBytes bytes)
      | .error _ => mishap (octets "cannot open " ++ path ++ octets ": No such file") 2
    | [] => do
      let source ← takeInput 0
      run.source source
    let action := (← get).onExit
    if !action.isEmpty then
      modify fun m => { m with onExit := [], flow := .next }
      run.source action

/-- Runs a command with other variables handed on, or tells which are handed on. -/
def runWithEnviron (run : Runner) : List Octets → Act Unit
  | [] => do
    write 1 (unlines ((← get).environ.map fun (name, value) => name ++ '=' :: value))
    setStatus 0
  | word :: rest =>
    isolated do
      let (name, value) := splitAssignment word
      match value with
      | some value => do
        setVariable name value
        exportVariable name
        runWithEnviron run rest
      | none =>
        if word = ['-', 'i'] then do
          modify fun m => { m with exported := [] }
          runWithEnviron run rest
        else run.words false (word :: rest)

/-- The words of a text for `xargs`: cut at blanks, with quotes and backslashes taken away.  `quote`
    is the quote inside of which the text is; `word` is in progress, last character first. -/
def argumentWords : Option Char → Option Octets → Octets → List Octets
  | _, word, [] => (word.map List.reverse).toList
  | none, word, '\\' :: c :: rest => argumentWords none (some (c :: word.getD [])) rest
  | some quote, word, c :: rest =>
    if c = quote then argumentWords none (some (word.getD [])) rest
    else argumentWords (some quote) (some (c :: word.getD [])) rest
  | none, word, c :: rest =>
    if c = '\'' || c = '"' then argumentWords (some c) (some (word.getD [])) rest
    else if isSpace c then (word.map List.reverse).toList ++ argumentWords none none rest
    else argumentWords none (some (c :: word.getD [])) rest

/-- A list in pieces of a given length; at most `fuel` of them. -/
def inPieces (size : Nat) : Nat → List α → List (List α)
  | 0, _ => []
  | _, [] => []
  | fuel + 1, items => items.take size :: inPieces size fuel (items.drop size)

/-- Runs commands whose last arguments come from the input. -/
def runOnArguments (run : Runner) (args : List Octets) : Act Unit := do
  let text ← takeInput 0
  let (size, mark, words) : Option Nat × Option Octets × List Octets :=
    match args with
    | ['-', 'n'] :: n :: rest => (count? n, none, rest)
    | ('-' :: 'n' :: n) :: rest => (count? n, none, rest)
    | ['-', 'I'] :: mark :: rest => (none, some mark, rest)
    | ('-' :: 'I' :: mark) :: rest => (none, some mark, rest)
    | ['-', 'r'] :: rest => (none, none, rest)
    | rest => (none, none, rest)
  let words := if words.isEmpty then [octets "echo"] else words
  let calls : List (List Octets) :=
    match mark with
    | some mark =>
      ((linesOf text).map fun line => line.dropWhile isBlank).filterMap fun line =>
        if line.isEmpty then none
        else some (words.map fun word => List.intercalate line (Text.pieces mark word))
    | none =>
      let items := argumentWords none none text
      match size with
      | some size => (inPieces (max size 1) items.length items).map (words ++ ·)
      | none =>
        if items.isEmpty && args.head? = some ['-', 'r'] then [] else [words ++ items]
  let failed ← calls.foldlM
    (fun (failed : Bool) call => do
      isolated (run.words false call)
      return failed || (← get).status ≠ 0)
    false
  setStatus (if failed then 123 else 0)

/-- Tells the paths of utilities. -/
def showPaths (args : List Octets) : Act Unit := do
  let m ← get
  let found := args.filter m.isUtility
  write 1 (unlines (found.map utilityPath))
  setStatus (if found.length = args.length && !args.isEmpty then 0 else 1)

/-- Runs a utility, or tells that there is none with the name. -/
def runUtility (run : Runner) (name : Octets) (args : List Octets) : Act Unit := do
  let m ← get
  let plain := utilityName name
  if m.isUtility name then
    match String.ofList plain with
    | "sh" | "dash" => runShell run name args
    | "env" => runWithEnviron run args
    | "xargs" => runOnArguments run args
    | "which" => showPaths args
    | _ =>
      match utility? (m.request plain args) with
      | some effect => perform effect
      | none => setStatus 127
  else if name.contains '/' && m.files.contains (pathFrom m.here name) then
    mishap (name ++ octets ": Permission denied") 126
  else mishap (name ++ octets ": not found") 127

/-- Runs a command given by its words: a function, a command of the shell or a utility. -/
def runWords (run : Runner) (usesFunctions : Bool) : List Octets → Act Unit
  | [] => setStatus 0
  | name :: args => do
    let m ← get
    match (if usesFunctions then m.functions.get? name else none), builtin? run name args with
    | some body, _ => callFunction run body args
    | none, some act => act
    | none, none =>
      if regularNames.contains (String.ofList name) then
        match utility? (m.request name args) with
        | some effect => perform effect
        | none => setStatus 127
      else runUtility run name args

/-! ## Simple commands -/

/-- The values of assignments, in order. -/
def assignedValues (run : Runner) (fuel : Nat) (assignments : List (Octets × Word)) :
    Act (List (Octets × Octets)) :=
  assignments.foldlM
    (fun before (name, word) => do
      let value ← expandText run.source fuel word
      return before ++ [(name, value)])
    []

/-- A computation with variables that are handed on and have their old values back afterwards. -/
def withVariables (values : List (Octets × Octets)) (act : Act Unit) : Act Unit := do
  let before ← get
  values.forM fun (name, value) => do
    assignVariable name value
    exportVariable name
  act
  values.forM fun (name, _) => do
    match before.value? name with
    | some value => setVariable name value
    | none => unsetVariable name
    modify fun m =>
      if before.exported.contains name then m
      else { m with exported := m.exported.filter (· ≠ name) }

/-- Assigns values one after the other, each seen by the next. -/
def assignAll (run : Runner) (fuel : Nat) (assignments : List (Octets × Word)) : Act Unit :=
  assignments.forM fun (name, word) => do
    let value ← expandText run.source fuel word
    if ← goesOn then assignVariable name value

/-- Runs a simple command: its words are replaced first, then its redirections are made, then its
    assignments. -/
def runSimple (run : Runner) (fuel : Nat) (assignments : List (Octets × Word))
    (words : List Word) (redirections : List Redirection) : Act Unit := do
  modify fun m => { m with hasCaptured := false }
  let words ← expandWords run.source fuel words
  if ← goesOn then
    let before := (← get).channels
    let isDone ← applyRedirections run fuel redirections
    let name := words.headD []
    let isSpecial := specialNames.contains (String.ofList name)
    if !isDone then
      modify fun m => { m with channels := before }
      if ← goesOn then
        setStatus 2
        if isSpecial then setFlow .exit
    else
      if words.isEmpty then
        assignAll run fuel assignments
        if ← goesOn then
          if !(← get).hasCaptured then setStatus 0
      else if isSpecial then
        assignAll run fuel assignments
        if ← goesOn then run.words true words
      else
        let values ← assignedValues run fuel assignments
        if ← goesOn then withVariables values (run.words true words)
      if !(name = octets "exec" && words.length = 1) then
        modify fun m => { m with channels := before }
    checkFailure

/-! ## Compound commands -/

/-- What a loop does after a round: go on or stop.  The levels of a command that leaves loops or
    starts their next round count down. -/
def afterRound : Act Bool := do
  match (← get).flow with
  | .next => return true
  | .leave levels => do
    setFlow (if levels ≤ 1 then .next else .leave (levels - 1))
    return false
  | .again levels =>
    if levels ≤ 1 then do
      setFlow .next
      return true
    else do
      setFlow (.again (levels - 1))
      return false
  | .exit | .back => return false

/-- Rounds of a loop with a test, at most `fuel` of them; `status` is that of the last round. -/
def rounds (test body : Act Unit) (isUntil : Bool) : Nat → Nat → Act Unit
  | 0, status => setStatus status
  | fuel + 1, status => do
    tested test
    if ← goesOn then
      if ((← get).status = 0) = !isUntil then
        body
        let status := (← get).status
        if ← afterRound then rounds test body isUntil fuel status
      else setStatus status
    else
      let _ ← afterRound

/-- Rounds of a loop over words. -/
def roundsOver (name : Octets) (body : Act Unit) : List Octets → Act Unit
  | [] => pure ()
  | word :: rest => do
    assignVariable name word
    if ← goesOn then
      body
      if ← afterRound then roundsOver name body rest

/-- Whether one of several patterns stands for a text. -/
def matchesAny (run : Runner) (fuel : Nat) (subject : Octets) : List Word → Act Bool
  | [] => return false
  | word :: rest => do
    let pattern ← expandPattern run.source fuel word
    if pattern.accepts subject then return true else matchesAny run fuel subject rest

/-- Runs the first clause of a choice whose patterns stand for its subject. -/
def runClauses (run : Runner) (fuel : Nat) (subject : Octets) :
    List (List Word × Command) → Act Unit
  | [] => setStatus 0
  | (patterns, body) :: rest => do
    if ← matchesAny run fuel subject patterns then run.command body
    else runClauses run fuel subject rest

/-- Runs a computation with its output led into the input of another one, both on a copy. -/
def runPipe (first second : Act Unit) : Act Unit := do
  let index ← openStream {}
  let led (number : Nat) (act : Act Unit) : Act Unit :=
    isolated do
      modify fun m =>
        { m with
          channels := m.channels.put number (.stream index)
          isTested := false
          onExit := [] }
      act
  led 1 first
  led 0 second

/-- The most rounds of a loop. -/
def roundLimit : Nat := 100000

/-- **Runs a command.** -/
def runCommand (run : Runner) (fuel : Nat) : Command → Act Unit
  | .nothing => setStatus 0
  | .simple assignments words redirections => runSimple run fuel assignments words redirections
  | .redirected body redirections => do
    let before := (← get).channels
    if ← applyRedirections run fuel redirections then run.command body
    else if ← goesOn then setStatus 2
    modify fun m => { m with channels := before }
    checkFailure
  | .function name body => do
    modify fun m => { m with functions := m.functions.put name body }
    setStatus 0
  | .sequence first second => do
    run.command first
    if ← goesOn then run.command second
  | .both first second => do
    tested (run.command first)
    if ← goesOn then
      if (← get).status = 0 then run.command second
  | .either first second => do
    tested (run.command first)
    if ← goesOn then
      if (← get).status ≠ 0 then run.command second
  | .pipe first second => do
    runPipe (run.command first) (run.command second)
    checkFailure
  | .negation body => do
    tested (run.command body)
    if ← goesOn then setStatus (if (← get).status = 0 then 1 else 0)
  | .background body => do
    isolated do
      modify fun m => { m with channels := m.channels.put 0 .device, onExit := [] }
      run.command body
    setStatus 0
  | .subshell body => do
    let keeps := (← get).isTested
    isolated do
      modify fun m => { m with isTested := keeps, onExit := [] }
      run.command body
      let action := (← get).onExit
      if !action.isEmpty then
        modify fun m => { m with onExit := [], flow := .next }
        run.source action
    checkFailure
  | .branch test yes no => do
    tested (run.command test)
    if ← goesOn then run.command (if (← get).status = 0 then yes else no)
  | .loop isUntil test body => rounds (run.command test) (run.command body) isUntil roundLimit 0
  | .forEach name words body => do
    let items ← match words with
      | some words => expandWords run.source fuel words
      | none => do pure (← get).arguments
    if ← goesOn then
      setStatus 0
      roundsOver name (run.command body) items
  | .choose subject clauses => do
    let text ← expandText run.source fuel subject
    if ← goesOn then runClauses run fuel text clauses

/-! ## Command lines -/

/-- Runs the lines of a command line, each read after the one before it has run; at most `fuel`
    lines. -/
def runLines (run : Runner) : Nat → List Token → Act Unit
  | 0, _ => pure ()
  | fuel + 1, tokens => do
    match readLine tokens with
    | .finished => pure ()
    | .mistake => abandon (octets "Syntax error")
    | .commands command rest => do
      run.command command
      if ← goesOn then runLines run fuel rest

/-- Everything that can be run: the text of a command line, a command, or a command given by its
    words. -/
inductive Job where
  | source (text : Octets)
  | command (command : Command)
  | words (usesFunctions : Bool) (words : List Octets)

/-- Runs a job, with at most `fuel` jobs inside of jobs. -/
def runJob : Nat → Job → Act Unit
  | 0, _ => abandon (octets "Maximum function recursion depth reached")
  | fuel + 1, job =>
    let run : Runner :=
      { source := fun text => runJob fuel (.source text)
        command := fun command => runJob fuel (.command command)
        words := fun usesFunctions words => runJob fuel (.words usesFunctions words) }
    match job with
    | .source text => do
      let tokens := tokens text
      if tokens.all (· = .operator .newline) then setStatus 0
      runLines run (tokens.length + 1) tokens
    | .command command => runCommand run fuel command
    | .words usesFunctions words => runWords run usesFunctions words

/-- How many jobs can be inside of each other. -/
def depthLimit : Nat := 3000

/-- The state in which a command line starts: its input is empty, its output goes to the first
    stream, its messages are dropped. -/
def Machine.start (files : FileTree) (environ : List (String × String)) : Machine :=
  let given := (environ.map fun (name, value) => (octets name, octets value)).filter
    fun (name, _) => isName name
  { files
    streams := #[{}]
    channels := [(0, .device), (1, .stream 0), (2, .device)]
    bindings := startVariables given
    exported := given.map (·.1) }

/-- **The output of a command line and the files after it.** -/
def run (files : FileTree) (environ : List (String × String)) (command : String) :
    List UInt8 × FileTree :=
  let whole : Act Unit := do
    runJob depthLimit (.source (octets command))
    let action := (← get).onExit
    if !action.isEmpty then
      modify fun m => { m with onExit := [], flow := .next }
      runJob depthLimit (.source action)
  let (_, m) := whole.run (Machine.start files environ)
  (bytesOf (m.streams.getD 0 {}).content, m.files)

end ArenaLisp.Shell
