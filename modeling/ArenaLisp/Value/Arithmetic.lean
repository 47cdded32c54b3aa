import ArenaLisp.Fault

/-!
# Arithmetic on values

Two integers give an integer; as soon as one operand is a float both are widened and the result is
a float.  Integer results are exact or refused: nothing wraps around.  Integer division is rounded
toward zero and the remainder has the sign of the dividend.

## Main definitions

- `Operands`: two numbers of one kind, made by `promote`.
- `word`: an integer as a value, if it fits a machine word.
- `Operator`, `arithmetic`: the five binary operations.
- `compareIntegers`: the order of integers, the only values that are ordered.
-/

namespace ArenaLisp

/-- Two operands of one kind. -/
inductive Operands where
  | integers (a b : Int)
  | floats (a b : Float)

/-- The promotion rule: two integers stay integers, any other two numbers become floats. -/
def promote (name : String) (a b : Value) : Except Fault Operands :=
  match a, b with
  | .integer a, .integer b => .ok (.integers a b)
  | .integer a, .float b => .ok (.floats (Float.ofInt a) b)
  | .float a, .integer b => .ok (.floats a (Float.ofInt b))
  | .float a, .float b => .ok (.floats a b)
  | a, b => .error (.binding (.notNumbers name a b))

/-- An integer as a value; one that does not fit a machine word is refused. -/
def word (name : String) (n : Int) : Except Fault Value :=
  if Decimal.inWord n then .ok (.integer n) else .error (.binding (.overflow name n))

/-- The binary operations on numbers. -/
inductive Operator where
  | add
  | sub
  | mul
  | div
  | mod
  deriving Repr, DecidableEq

namespace Operator

/-- The name of an operation in scripts. -/
def name : Operator → String
  | .add => "+"
  | .sub => "-"
  | .mul => "*"
  | .div => "/"
  | .mod => "mod"

/-- Whether an operation divides, and so needs a divisor other than zero. -/
def divides : Operator → Bool
  | .div | .mod => true
  | _ => false

/-- The quotient of two integers, rounded toward zero: that of their absolute values, rounded down,
    with the sign that their own quotient has.  The divisor is not zero. -/
def quotient (a b : Int) : Int :=
  let q : Int := (a.natAbs / b.natAbs : Nat)
  if a < 0 ↔ b < 0 then q else -q

/-- An operation on integers, exact.  The divisor is not zero. -/
def onIntegers : Operator → Int → Int → Int
  | .add, a, b => a + b
  | .sub, a, b => a - b
  | .mul, a, b => a * b
  | .div, a, b => quotient a b
  | .mod, a, b => a - b * quotient a b

/-- An operation on floats.  The divisor is not zero; an infinite dividend has no remainder. -/
def onFloats : Operator → Float → Float → Except Fault Float
  | .add, a, b => .ok (a + b)
  | .sub, a, b => .ok (a - b)
  | .mul, a, b => .ok (a * b)
  | .div, a, b => .ok (a / b)
  | .mod, a, b =>
    match Decimal.remainder a b with
    | some r => .ok r
    | none => .error (.stray .infiniteDividend)

end Operator

/-- A binary operation on two values. -/
def arithmetic (op : Operator) (a b : Value) : Except Fault Value :=
  match promote op.name a b with
  | .error fault => .error fault
  | .ok (.integers x y) =>
    if op.divides && decide (y = 0) then .error (.binding (.divisionByZero op.name a b))
    else word op.name (op.onIntegers x y)
  | .ok (.floats x y) =>
    if op.divides && Decimal.isZero y then .error (.binding (.divisionByZero op.name a b))
    else (op.onFloats x y).map .float

/-- The order of two integers: `<` for the name `<`, the reverse for any other. -/
def compareIntegers (name : String) (a b : Value) : Except Fault Value :=
  match a, b with
  | .integer x, .integer y => .ok (.ofBool (if name = "<" then decide (x < y) else decide (x > y)))
  | a, b => .error (.binding (.notIntegers name a b))

end ArenaLisp
