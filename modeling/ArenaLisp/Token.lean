import ArenaLisp.Text.Quoted

/-!
# Tokens

The lexical units of a script: parentheses, strings with their escapes resolved, and symbols.  A
number is a symbol here; what a symbol stands for is decided when nodes are read.

## Main definitions

- `Token`: a kind and a text; the text of a parenthesis plays no part in reading.
- `Token.describe`: how a token is shown in a diagnostic.
-/

namespace ArenaLisp

/-- The kinds of token.  `bare` is a token of no particular kind: no source text yields one, and
    none can be read. -/
inductive Token.Kind where
  | opening
  | closing
  | string
  | symbol
  | bare
  deriving Repr, DecidableEq

/-- A token: its kind and its text. -/
structure Token where
  kind : Token.Kind
  text : String := ""
  deriving Repr, DecidableEq

namespace Token

/-- The opening parenthesis as it is found in a source. -/
def openParen : Token := { kind := .opening }

/-- The closing parenthesis as it is found in a source. -/
def closeParen : Token := { kind := .closing }

/-- The label under which a kind of token is shown. -/
def Kind.label : Kind → String
  | .opening => "ListOpen"
  | .closing => "ListClose"
  | .string => "StringLiteral"
  | .symbol => "SymbolToken"
  | .bare => "Token"

/-- How a token is shown: its label, with the text if there is any. -/
def describe (t : Token) : String :=
  t.kind.label ++ "(" ++ (if t.text.isEmpty then "" else Text.quoted t.text) ++ ")"

end Token

end ArenaLisp
