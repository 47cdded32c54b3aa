import ArenaLisp.Shell.Command
import ArenaLisp.Shell.Token.Lexer

/-!
# Reading commands

Tokens are read as commands by recursive descent.  The only place where the grammar comes back to
itself is a list of commands inside of a compound command; every reader takes the reader of such
lists as an argument, and `commandList` closes the circle with a bound on the depth.

A command line is read line by line: what stands before a mistake runs before the mistake is seen.

## Main definitions

- `Reading`: a reader of tokens.
- `simpleCommand`, `compoundCommand`, `pipeline`, `commandList`: the levels of the grammar.
- **`readLine`**: the commands of the next line.
-/

namespace ArenaLisp.Shell

/-- A reader of tokens: what is read and the tokens that follow it, or nothing if there is a
    mistake. -/
abbrev Reading (α : Type) := List Token → Option (α × List Token)

/-- The text of a word that is written without quotes and replacements. -/
def Token.plain? : Token → Option String
  | .word parts => parts.literal?.map String.ofList
  | _ => none

/-- The tokens behind a given word. -/
def expectWord (word : String) : List Token → Option (List Token)
  | token :: rest => if token.plain? = some word then some rest else none
  | [] => none

/-- The tokens behind a given operator. -/
def expectOperator (operator : Operator) : List Token → Option (List Token)
  | token :: rest => if token = .operator operator then some rest else none
  | [] => none

/-- The tokens behind the ends of lines. -/
def skipNewlines (tokens : List Token) : List Token :=
  tokens.dropWhile fun token => token = .operator .newline

/-- The words that end a list of commands. -/
def closingWords : List String := ["then", "else", "elif", "fi", "do", "done", "esac", "\x7d"]

/-- Whether a command can start with a token. -/
def Token.startsCommand (token : Token) : Bool :=
  match token with
  | .word _ => token.plain?.all fun word => !closingWords.contains word
  | .redirection .. | .hereText .. => true
  | .operator kind => kind = .openParen
  | _ => false

/-! ## Simple commands -/

/-- The name and the value of an assignment. -/
def assignment? (word : Word) : Option (Octets × Word) :=
  let isPlain : Part → Bool
    | .char c false => isNameChar c
    | _ => false
  let name := Word.bare (word.takeWhile isPlain)
  match word.dropWhile isPlain with
  | .char '=' false :: value => if isName name then some (name, value) else none
  | _ => none

/-- The redirections at the start of some tokens. -/
def redirections : Reading (List Redirection)
  | .redirection stream kind :: .word word :: rest =>
    (redirections rest).map fun (more, rest) => (.target stream kind word :: more, rest)
  | .redirection .. :: _ => none
  | .hereText stream word :: rest =>
    (redirections rest).map fun (more, rest) => (.text stream word :: more, rest)
  | rest => some ([], rest)

/-- A simple command: assignments, words and redirections.  A word that has the form of an
    assignment is one as long as no other word came before it. -/
def simpleFrom (assignments : List (Octets × Word)) (words : List Word)
    (targets : List Redirection) : Reading Command
  | .word word :: rest =>
    match assignment? word, words with
    | some assignment, [] => simpleFrom (assignments ++ [assignment]) [] targets rest
    | _, _ => simpleFrom assignments (words ++ [word]) targets rest
  | .redirection stream kind :: .word word :: rest =>
    simpleFrom assignments words (targets ++ [.target stream kind word]) rest
  | .redirection .. :: _ => none
  | .hereText stream word :: rest =>
    simpleFrom assignments words (targets ++ [.text stream word]) rest
  | rest =>
    if assignments.isEmpty && words.isEmpty && targets.isEmpty then none
    else some (.simple assignments words targets, rest)

/-- A simple command. -/
def simpleCommand : Reading Command := simpleFrom [] [] []

/-! ## Compound commands -/

/-- A branch behind `if` or `elif`; at most `fuel` alternatives. -/
def branchFrom (list : Reading Command) : Nat → Reading Command
  | 0, _ => none
  | fuel + 1, tokens => do
    let (test, rest) ← list tokens
    let (yes, rest) ← list (← expectWord "then" rest)
    match expectWord "elif" rest, expectWord "else" rest with
    | some rest, _ =>
      let (no, rest) ← branchFrom list fuel rest
      return (.branch test yes no, rest)
    | _, some rest =>
      let (no, rest) ← list rest
      return (.branch test yes no, ← expectWord "fi" rest)
    | _, _ => return (.branch test yes .nothing, ← expectWord "fi" rest)

/-- The body of a loop. -/
def loopBody (list : Reading Command) : Reading Command := fun tokens => do
  let (body, rest) ← list (← expectWord "do" tokens)
  return (body, ← expectWord "done" rest)

/-- The words at the start of some tokens. -/
def words : List Token → List Word × List Token
  | .word word :: rest =>
    let (more, rest) := words rest
    (word :: more, rest)
  | rest => ([], rest)

/-- A loop over words, behind `for`. -/
def forLoop (list : Reading Command) : Reading Command
  | .word parts :: rest => do
    let name ← parts.literal?
    if !isName name then none
    else
      match expectWord "in" (skipNewlines rest) with
      | some rest =>
        let (items, rest) := words rest
        let rest := (expectOperator .semicolon rest).getD rest
        let (body, rest) ← loopBody list (skipNewlines rest)
        return (.forEach name (some items) body, rest)
      | none =>
        let rest := (expectOperator .semicolon rest).getD rest
        let (body, rest) ← loopBody list (skipNewlines rest)
        return (.forEach name none body, rest)
  | _ => none

/-- The patterns of a clause, with the bracket that ends them. -/
def clausePatterns : Reading (List Word)
  | .word word :: .operator .closeParen :: rest => some ([word], rest)
  | .word word :: .operator .pipe :: rest =>
    (clausePatterns rest).map fun (more, rest) => (word :: more, rest)
  | _ => none

/-- The clauses of a choice up to its end; at most `fuel` of them. -/
def clausesFrom (list : Reading Command) : Nat → Reading (List (List Word × Command))
  | 0, _ => none
  | fuel + 1, tokens => do
    let tokens := skipNewlines tokens
    match expectWord "esac" tokens with
    | some rest => return ([], rest)
    | none =>
      let (patterns, rest) ← clausePatterns ((expectOperator .openParen tokens).getD tokens)
      let rest := skipNewlines rest
      let isEmpty := (expectOperator .clauseEnd rest).isSome || (expectWord "esac" rest).isSome
      let (body, rest) ← if isEmpty then some (.nothing, rest) else list rest
      match expectOperator .clauseEnd rest with
      | some rest =>
        let (more, rest) ← clausesFrom list fuel rest
        return ((patterns, body) :: more, rest)
      | none => return ([(patterns, body)], ← expectWord "esac" (skipNewlines rest))

/-- A choice, behind `case`. -/
def choice (list : Reading Command) : Reading Command
  | .word subject :: rest => do
    let rest ← expectWord "in" (skipNewlines rest)
    let (clauses, rest) ← clausesFrom list (rest.length + 1) rest
    return (.choose subject clauses, rest)
  | _ => none

/-- The body of a compound command, if the tokens start one. -/
def compoundBody? (list : Reading Command) (tokens : List Token) :
    Option (Option (Command × List Token)) :=
  match tokens with
  | [] => none
  | token :: rest =>
    if token = .operator .openParen then
      some do
        let (body, rest) ← list rest
        return (.subshell body, ← expectOperator .closeParen rest)
    else
      match token.plain? with
      | some "\x7b" =>
        some do
          let (body, rest) ← list rest
          return (body, ← expectWord "\x7d" rest)
      | some "if" => some (branchFrom list (rest.length + 1) rest)
      | some "for" => some (forLoop list rest)
      | some "case" => some (choice list rest)
      | some "while" =>
        some do
          let (test, rest) ← list rest
          let (body, rest) ← loopBody list rest
          return (.loop false test body, rest)
      | some "until" =>
        some do
          let (test, rest) ← list rest
          let (body, rest) ← loopBody list rest
          return (.loop true test body, rest)
      | _ => none

/-- A compound command with its redirections, or a simple command. -/
def compoundCommand (list : Reading Command) : Reading Command := fun tokens =>
  match compoundBody? list tokens with
  | some body => do
    let (body, rest) ← body
    let (targets, rest) ← redirections rest
    return (if targets.isEmpty then body else .redirected body targets, rest)
  | none => simpleCommand tokens

/-- The definition of a function, or any other command. -/
def command (list : Reading Command) : Reading Command := fun tokens =>
  match tokens with
  | .word name :: .operator .openParen :: .operator .closeParen :: rest => do
    let name ← name.literal?
    let (body, rest) ← compoundCommand list (skipNewlines rest)
    return (.function name body, rest)
  | [] => none
  | token :: _ => if token.startsCommand then compoundCommand list tokens else none

/-! ## Lists -/

/-- Commands joined by pipes; at most `fuel` of them. -/
def pipeFrom (list : Reading Command) : Nat → Reading Command
  | 0, _ => none
  | fuel + 1, tokens => do
    let (first, rest) ← command list tokens
    match expectOperator .pipe rest with
    | some rest =>
      let (second, rest) ← pipeFrom list fuel (skipNewlines rest)
      return (.pipe first second, rest)
    | none => return (first, rest)

/-- Commands joined by pipes, possibly negated. -/
def pipeline (list : Reading Command) : Reading Command := fun tokens =>
  match expectWord "!" tokens with
  | some rest => do
    let (body, rest) ← pipeFrom list (rest.length + 1) rest
    return (.negation body, rest)
  | none => pipeFrom list (tokens.length + 1) tokens

/-- Pipelines of which each runs depending on what came before it: those that follow a first one, at
    most `fuel` of them. -/
def conditionalFrom (list : Reading Command) (first : Command) : Nat → Reading Command
  | 0, _ => none
  | fuel + 1, tokens =>
    match expectOperator .both tokens, expectOperator .either tokens with
    | some rest, _ => do
      let (second, rest) ← pipeline list (skipNewlines rest)
      conditionalFrom list (.both first second) fuel rest
    | _, some rest => do
      let (second, rest) ← pipeline list (skipNewlines rest)
      conditionalFrom list (.either first second) fuel rest
    | none, none => some (first, tokens)

/-- Pipelines of which each runs depending on what came before it. -/
def conditional (list : Reading Command) : Reading Command := fun tokens => do
  let (first, rest) ← pipeline list tokens
  conditionalFrom list first (rest.length + 1) rest

/-- Commands one after the other, on one line or over several ones; at most `fuel` of them. -/
def sequenceFrom (list : Reading Command) (severalLines : Bool) : Nat → Reading Command
  | 0, _ => none
  | fuel + 1, tokens => do
    let (first, rest) ← conditional list tokens
    let (first, separated) :=
      match expectOperator .semicolon rest, expectOperator .background rest with
      | some rest, _ => (first, some rest)
      | _, some rest => (.background first, some rest)
      | _, _ => (first, if severalLines then expectOperator .newline rest else none)
    let rest := separated.getD rest
    let rest := if severalLines then skipNewlines rest else rest
    match rest with
    | token :: _ =>
      if separated.isSome && token.startsCommand then
        let (second, rest) ← sequenceFrom list severalLines fuel rest
        return (.sequence first second, rest)
      else return (first, rest)
    | [] => return (first, [])

/-- A list of commands inside of a compound command, with at most `fuel` levels of them. -/
def commandList : Nat → Reading Command
  | 0, _ => none
  | fuel + 1, tokens =>
    let tokens := skipNewlines tokens
    sequenceFrom (commandList fuel) true (tokens.length + 1) tokens

/-- The next line of a command line. -/
inductive NextLine where
  | finished
  | mistake
  | commands (command : Command) (rest : List Token)

/-- **The commands of the next line**, which ends where a line ends outside of all compound
    commands. -/
def readLine (tokens : List Token) : NextLine :=
  match skipNewlines tokens with
  | [] => .finished
  | tokens =>
    match sequenceFrom (commandList tokens.length) false (tokens.length + 1) tokens with
    | none => .mistake
    | some (command, []) => .commands command []
    | some (command, .operator .newline :: rest) => .commands command rest
    | some _ => .mistake

end ArenaLisp.Shell
