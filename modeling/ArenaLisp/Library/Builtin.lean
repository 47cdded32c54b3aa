import ArenaLisp.Value.Arithmetic

/-!
# Builtin operations

The operations a script finds ready made, by name.  An operation takes a fixed number of arguments
or a variable one; how many it accepts follows from its form, so that an operation that is applied
at all finds the arguments it expects.

## Main definitions

- `Arity`: how many arguments a binding accepts, checked by `Arity.check`.
- `Nullary`, `Unary`, `Binary`, `NonEmpty`, `Variadic`: the operations by their form.
- `Builtin`: a name for an operation.
-/

namespace ArenaLisp

/-- How many arguments a binding accepts. -/
inductive Arity where
  | any
  | exactly (count : Nat)
  | atLeast (count : Nat)
  deriving Repr, DecidableEq

/-- Whether a number of arguments is accepted. -/
def Arity.accepts : Arity → Nat → Bool
  | .any, _ => true
  | .exactly n, count => decide (count = n)
  | .atLeast n, count => decide (n ≤ count)

/-- The fault of a binding that does not accept a number of arguments. -/
def Arity.fault (name : String) (count : Nat) : Arity → ArityFault
  | .any => { expected := 0, actual := count, name := some name }
  | .exactly n => { expected := n, actual := count, name := some name }
  | .atLeast n => { expected := n, actual := count, name := some name, atLeast := true }

/-- Accepts a number of arguments for a named binding, or says what was expected. -/
def Arity.check (arity : Arity) (name : String) (count : Nat) : Except ArityFault Unit :=
  if arity.accepts count then .ok () else .error (arity.fault name count)

/-- Operations without arguments. -/
inductive Nullary where
  | readLine
  | localNames
  | allNames
  deriving Repr, DecidableEq

/-- Operations on one argument. -/
inductive Unary where
  | not
  | car
  | cdr
  | length
  | endp
  | lines
  | readFile
  | parseInt
  | system
  | error
  deriving Repr, DecidableEq

/-- Operations on two arguments. -/
inductive Binary where
  | mod
  | equals
  | less
  | greater
  | and
  | or
  | cons
  | split
  | join
  | assertEqual
  deriving Repr, DecidableEq

/-- Operations on one argument or more. -/
inductive NonEmpty where
  | fold (op : Operator)
  | toText
  | typeOf
  deriving Repr, DecidableEq

/-- Operations on any number of arguments. -/
inductive Variadic where
  | list
  | last
  | concat
  | print
  | debug
  | assertAll
  deriving Repr, DecidableEq

/-- An operation together with its form. -/
inductive Operation where
  | nullary (op : Nullary)
  | unary (op : Unary)
  | binary (op : Binary)
  | nonEmpty (op : NonEmpty)
  | variadic (op : Variadic)
  deriving Repr, DecidableEq

/-- The number of arguments that an operation accepts. -/
def Operation.arity : Operation → Arity
  | .nullary _ => .exactly 0
  | .unary _ => .exactly 1
  | .binary _ => .exactly 2
  | .nonEmpty _ => .atLeast 1
  | .variadic _ => .any

/-- A builtin: an operation under its name. -/
structure Builtin where
  name : String
  operation : Operation
  deriving Repr, DecidableEq

/-- The number of arguments that a builtin accepts. -/
def Builtin.arity (b : Builtin) : Arity := b.operation.arity

end ArenaLisp
