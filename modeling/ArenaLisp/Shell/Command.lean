import ArenaLisp.Shell.Token

/-!
# Commands

The structure of a command line: simple commands, and what is made of commands by connectives,
branches, loops and functions.

## Main definitions

- `Redirection`: a stream and where it goes to or comes from.
- `Command`: a command.
-/

namespace ArenaLisp.Shell

/-- A stream and where it goes to or comes from: a target by a kind of redirection, or a text. -/
inductive Redirection where
  | target (stream : Nat) (kind : RedirectionKind) (word : Word)
  | text (stream : Nat) (word : Word)
  deriving Repr, DecidableEq

/-- A command. -/
inductive Command where
  | nothing
  | simple (assignments : List (Octets × Word)) (words : List Word)
      (redirections : List Redirection)
  | redirected (body : Command) (redirections : List Redirection)
  | function (name : Octets) (body : Command)
  | sequence (first second : Command)
  | both (first second : Command)
  | either (first second : Command)
  | pipe (first second : Command)
  | negation (body : Command)
  | background (body : Command)
  | subshell (body : Command)
  | branch (test yes no : Command)
  | loop (isUntil : Bool) (test body : Command)
  | forEach (name : Octets) (words : Option (List Word)) (body : Command)
  | choose (subject : Word) (clauses : List (List Word × Command))

end ArenaLisp.Shell
