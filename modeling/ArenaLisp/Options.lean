import ArenaLisp.Text.Digit
import ArenaLisp.Text.Quoted

/-!
# Options

The arguments of the program, read in two passes.  The first one decides what each argument is by
itself: an option, the divider `--` behind which there are no options, or a plain argument.  The
second one goes from left to right, gives options their values and collects the files.

## Main definitions

- `Flag`: the options, with their spellings.
- `Item`: what an argument is by itself, found out by `Item.ofArguments`.
- `Item.request`: what an item that is an option asks for.
- `Options`: the outcome, and `Misuse`, the ways in which arguments are refused.
- **`Invocation.ofArguments`**: the arguments of the program, read.
-/

namespace ArenaLisp

/-! ## The options -/

/-- The options of the program. -/
inductive Flag where
  | help
  | arg
  | interactive
  | test
  | lexical
  | noEval
  | noInclude
  | verbose
  deriving Repr, DecidableEq

namespace Flag

/-- All options, in the order in which they are listed. -/
def all : List Flag :=
  [.help, .arg, .interactive, .test, .lexical, .noEval, .noInclude, .verbose]

/-- The letter of an option that has a short spelling. -/
def letter? : Flag → Option Char
  | .help => some 'h'
  | .arg => some 'a'
  | .interactive => some 'i'
  | .verbose => some 'v'
  | _ => none

/-- The long spelling of an option. -/
def long : Flag → String
  | .help => "--help"
  | .arg => "--arg"
  | .interactive => "--interactive"
  | .test => "--test"
  | .lexical => "--lexical"
  | .noEval => "--no-eval"
  | .noInclude => "--no-include"
  | .verbose => "--verbose"

/-- How an option is called in messages: its spellings, the short one first. -/
def title (f : Flag) : String :=
  match f.letter? with
  | some c => "-" ++ c.toString ++ "/" ++ f.long
  | none => f.long

/-- Whether an option comes with a value. -/
def takesValue : Flag → Bool
  | .arg => true
  | .test => true
  | _ => false

/-- The option with a letter. -/
def ofLetter? (c : Char) : Option Flag := all.find? fun f => f.letter? = some c

/-- The options whose long spelling starts with a text. -/
def startingWith (text : List Char) : List Flag := all.filter fun f => text.isPrefixOf f.long.toList

/-- The options that a text in the place of a long spelling can mean: the one that is spelled so, or
    else all whose spelling starts with it. -/
def candidates (text : List Char) : List Flag :=
  match all.find? fun f => f.long.toList = text with
  | some f => [f]
  | none => startingWith text

end Flag

/-- Why the arguments of the program are refused. -/
inductive Misuse where
  | ambiguous (text : String) (candidates : List Flag)
  | unwantedValue (flag : Flag) (value : String)
  | missingValue (flag : Flag)
  | unrecognized (texts : List String)
  deriving Repr, DecidableEq

/-- The wording of a refusal. -/
def Misuse.message : Misuse → String
  | .ambiguous text candidates =>
    "ambiguous option: " ++ text ++ " could match " ++
      String.intercalate ", " (candidates.map Flag.long)
  | .unwantedValue flag value =>
    "argument " ++ flag.title ++ ": ignored explicit argument " ++ Text.quoted value
  | .missingValue flag => "argument " ++ flag.title ++ ": expected one argument"
  | .unrecognized texts => "unrecognized arguments: " ++ String.intercalate " " texts

/-! ## Arguments by themselves -/

/-- What an argument is by itself.  An option in its long spelling may have a value attached behind
    `=`; one in its short spelling is followed by the rest of the argument. -/
inductive Item where
  | argument (text : String)
  | divider
  | long (flag : Flag) (value : Option (List Char))
  | short (flag : Flag) (rest : List Char)
  | unknown (text : String)
  deriving Repr, DecidableEq

namespace Item

/-- Whether a text that starts with `-` is a negative number: digits, or a point with digits behind
    it and perhaps in front.  A line feed at the end does not count. -/
def isNegativeNumber (text : List Char) : Bool :=
  let text := if text.getLast? = some '\n' then text.dropLast else text
  match text with
  | '-' :: number =>
    match number.dropWhile Text.isDecimalDigit with
    | [] => !number.isEmpty
    | '.' :: fraction => !fraction.isEmpty && fraction.all Text.isDecimalDigit
    | _ => false
  | _ => false

/-- A text that starts with `-` and is no option: a negative number and a text with a space are
    plain arguments. -/
def ofOther (text : String) : Item :=
  if isNegativeNumber text.toList || text.toList.contains ' ' then .argument text
  else .unknown text

/-- What follows the first `=` of a text, if there is one. -/
def valuePart (text : List Char) : Option (List Char) :=
  match text.dropWhile (· ≠ '=') with
  | _ :: value => some value
  | [] => none

/-- What an argument other than the divider is. -/
def ofArgument (text : String) : Except Misuse Item :=
  match text.toList with
  | '-' :: '-' :: _ =>
    match Flag.candidates (text.toList.takeWhile (· ≠ '=')) with
    | [flag] => .ok (.long flag (valuePart text.toList))
    | [] => .ok (ofOther text)
    | flags => .error (.ambiguous text flags)
  | '-' :: c :: rest =>
    match Flag.ofLetter? c with
    | some flag => .ok (.short flag rest)
    | none => .ok (ofOther text)
  | _ => .ok (.argument text)

/-- What each of several arguments is.  Behind the divider all are plain. -/
def ofArguments : List String → Except Misuse (List Item)
  | [] => .ok []
  | text :: rest =>
    if text = "--" then .ok (.divider :: rest.map .argument)
    else do
      let item ← ofArgument text
      let items ← ofArguments rest
      return item :: items

end Item

/-! ## Options in an item -/

/-- How an item that is an option ends: with nothing open, with the value of an option, or with an
    option whose value is the next argument. -/
inductive Ending where
  | complete
  | value (flag : Flag) (text : String)
  | wantsValue (flag : Flag)
  deriving Repr, DecidableEq

/-- What an item asks for: options without a value, in order, and its ending. -/
structure Request where
  switches : List Flag
  ending : Ending
  deriving Repr, DecidableEq

namespace Item

/-- An option without anything attached. -/
def requestAlone (flag : Flag) : Request :=
  if flag.takesValue then ⟨[], .wantsValue flag⟩ else ⟨[flag], .complete⟩

/-- An option with a value attached behind `=`. -/
def requestAssigned (flag : Flag) (value : List Char) : Except Misuse Request :=
  if flag.takesValue then .ok ⟨[], .value flag (String.ofList value)⟩
  else .error (.unwantedValue flag (String.ofList value))

/-- An option in its short spelling with something attached.  That is the value of an option that
    takes one; otherwise its characters are letters of further options. -/
def requestChain (flag : Flag) : List Char → Except Misuse Request
  | [] => .ok (requestAlone flag)
  | c :: rest =>
    if flag.takesValue then .ok ⟨[], .value flag (String.ofList (c :: rest))⟩
    else
      match Flag.ofLetter? c with
      | none => .error (.unwantedValue flag (String.ofList (c :: rest)))
      | some next =>
        (requestChain next rest).map fun r => { r with switches := flag :: r.switches }

/-- An option in its short spelling followed by the rest of its argument.  A `=` right behind the
    first letter is dropped, and then something must follow unless the option takes a value. -/
def requestShort (flag : Flag) : List Char → Except Misuse Request
  | ['='] => requestAssigned flag []
  | '=' :: attached => requestChain flag attached
  | rest => requestChain flag rest

end Item

/-! ## All arguments -/

/-- The outcome of reading the arguments: the patterns of the files to run, the strings handed to
    scripts, and the choices that were made. -/
structure Options where
  files : List String := []
  scriptArgs : List String := []
  interactive : Bool := false
  testDirectory : Option String := none
  lexical : Bool := false
  noEval : Bool := false
  noInclude : Bool := false
  verbose : Bool := false
  deriving Repr, DecidableEq

namespace Options

/-- The options with a switch set. -/
def switch (o : Options) : Flag → Options
  | .interactive => { o with interactive := true }
  | .lexical => { o with lexical := true }
  | .noEval => { o with noEval := true }
  | .noInclude => { o with noInclude := true }
  | .verbose => { o with verbose := true }
  | .help | .arg | .test => o

/-- The options with a value given. -/
def give (o : Options) (text : String) : Flag → Options
  | .arg => { o with scriptArgs := o.scriptArgs ++ [text] }
  | .test => { o with testDirectory := some text }
  | _ => o

end Options

/-- What the arguments of the program ask for: a run, or help, or nothing sensible. -/
inductive Invocation where
  | run (options : Options)
  | help
  | misuse (problem : Misuse)
  deriving Repr, DecidableEq

/-- How far the files have been collected: they are one contiguous group of arguments. -/
inductive Collecting where
  | before
  | within
  | after
  deriving Repr, DecidableEq

/-- The state of the second pass: the options so far, where the files stand, and the arguments that
    nobody takes. -/
structure Progress where
  options : Options := {}
  collecting : Collecting := .before
  leftovers : List String := []

namespace Progress

/-- A plain argument is a file if it belongs to the first group of them. -/
def argument (p : Progress) (text : String) : Progress :=
  match p.collecting with
  | .after => { p with leftovers := p.leftovers ++ [text] }
  | _ =>
    { p with
      options := { p.options with files := p.options.files ++ [text] }
      collecting := .within }

/-- The divider belongs to the first group of arguments, or is one that nobody takes. -/
def divider (p : Progress) : Progress :=
  match p.collecting with
  | .after => { p with leftovers := p.leftovers ++ ["--"] }
  | _ => { p with collecting := .within }

/-- An option ends the group of arguments before it. -/
def endGroup (p : Progress) : Progress :=
  match p.collecting with
  | .within => { p with collecting := .after }
  | _ => p

/-- A text that nobody takes. -/
def leftover (p : Progress) (text : String) : Progress :=
  { p with leftovers := p.leftovers ++ [text] }

/-- The progress with switches set. -/
def switches (p : Progress) (flags : List Flag) : Progress :=
  { p with options := flags.foldl Options.switch p.options }

/-- The progress with a value given. -/
def give (p : Progress) (flag : Flag) (text : String) : Progress :=
  { p with options := p.options.give text flag }

/-- The outcome at the end of the arguments. -/
def finish (p : Progress) : Invocation :=
  if p.leftovers.isEmpty then .run p.options else .misuse (.unrecognized p.leftovers)

end Progress

namespace Invocation

/-- What an item that is an option asks for. -/
def request? : Item → Option (Except Misuse Request)
  | .long flag none => some (.ok (Item.requestAlone flag))
  | .long flag (some value) => some (Item.requestAssigned flag value)
  | .short flag rest => some (Item.requestShort flag rest)
  | _ => none

/-- The second pass from some progress on.  Help is given as soon as it is asked for. -/
def ofItems (p : Progress) : List Item → Invocation
  | [] => p.finish
  | .argument text :: rest => ofItems (p.argument text) rest
  | .divider :: rest => ofItems p.divider rest
  | .unknown text :: rest => ofItems (p.endGroup.leftover text) rest
  | item :: rest =>
    match request? item with
    | none => ofItems p rest
    | some (.error problem) => .misuse problem
    | some (.ok request) =>
      match request.ending, rest with
      | .wantsValue flag, .argument text :: rest =>
        if request.switches.contains .help then .help
        else ofItems ((p.endGroup.switches request.switches).give flag text) rest
      | .wantsValue flag, _ => .misuse (.missingValue flag)
      | ending, rest =>
        if request.switches.contains .help then .help
        else
          let p := p.endGroup.switches request.switches
          match ending with
          | .value flag text => ofItems (p.give flag text) rest
          | _ => ofItems p rest

/-- **Reads the arguments of the program.** -/
def ofArguments (arguments : List String) : Invocation :=
  match Item.ofArguments arguments with
  | .error problem => .misuse problem
  | .ok items => ofItems {} items

end Invocation

end ArenaLisp
