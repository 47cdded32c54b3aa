import ArenaLisp.Shell.Word

/-!
# Tokens of a command line

Words, and the operators between them.

## Main definitions

- `Operator`: what separates commands.
- `RedirectionKind`: what a redirection does to a stream.
- `Token`: words, operators and redirections.
-/

namespace ArenaLisp.Shell

/-- What separates commands. -/
inductive Operator where
  | newline
  | semicolon
  | clauseEnd
  | background
  | both
  | either
  | pipe
  | openParen
  | closeParen
  deriving Repr, DecidableEq

/-- What a redirection does to a stream: it is read from a file, written to a file from its start
    or its end, opened for both, or joined to another stream. -/
inductive RedirectionKind where
  | read
  | write
  | append
  | update
  | duplicate
  deriving Repr, DecidableEq

/-- A token of a command line.  A redirection is followed by the word for its target; the text of a
    here-document stands where its mark was.  `malformed` stands where no token can be read. -/
inductive Token where
  | word (parts : Word)
  | operator (operator : Operator)
  | redirection (stream : Nat) (kind : RedirectionKind)
  | hereMark (stream : Nat)
  | hereText (stream : Nat) (text : Word)
  | malformed
  deriving Repr, DecidableEq

end ArenaLisp.Shell
