/-!
# Floats taken apart

A double is not a number, infinite, or a signed integer multiple of a power of two.  The exact
operations of this library (numeric equality, the remainder, the choice of digits) work on that
view, in natural numbers.

## Main definitions

- `Binary64`: the view of a double, produced by `Binary64.of`.
- `Binary64.assemble`: the double with a given sign, mantissa and exponent.
- `sameNumber`: numeric equality; the two zeros are equal, NaN is equal to nothing.
- `remainder`: the exact remainder of a division rounded toward zero.
-/

namespace ArenaLisp.Decimal

/-- The view of a double: `finite negative m q` stands for the number m · 2^q with its sign. -/
inductive Binary64 where
  | nan
  | infinite (negative : Bool)
  | finite (negative : Bool) (mantissa : Nat) (exponent : Int)
  deriving Repr, DecidableEq

/-- The place of the sign: the bits of a negative double stand for this number or a greater one. -/
def signBit : Nat := 0x8000000000000000

/-- The place of the exponent, which is also the leading bit of a full mantissa. -/
def leadingBit : Nat := 0x10000000000000

/-- The number of exponents. -/
def exponentCount : Nat := 0x800

/-- The view of a double, read off its bits: one for the sign, eleven for the exponent, the rest
    for the mantissa. -/
def Binary64.of (x : Float) : Binary64 :=
  let bits : Nat := x.toBits.toNat
  let negative := decide (signBit ≤ bits)
  let exponent : Nat := bits / leadingBit % exponentCount
  let fraction : Nat := bits % leadingBit
  if exponent = 2047 then
    if fraction = 0 then .infinite negative else .nan
  else if exponent = 0 then .finite negative fraction (-1074)
  else .finite negative (leadingBit + fraction) ((exponent : Int) - 1075)

/-- The double with a given sign and the value m · 2^q, for a mantissa below 2^53 and a value that
    is a double: the mantissa is moved up as far as the format allows. -/
def Binary64.assemble (negative : Bool) (mantissa : Nat) (exponent : Int) : Float :=
  let sign : Nat := if negative then signBit else 0
  let room : Nat := min (52 - mantissa.log2) (exponent + 1074).toNat
  let moved := mantissa * Nat.pow 2 room
  let low := exponent - room
  if moved < leadingBit then Float.ofBits (sign + moved).toUInt64
  else Float.ofBits (sign + (low + 1075).toNat * leadingBit + (moved - leadingBit)).toUInt64

/-- Whether a double is one of the two zeros. -/
def isZero (x : Float) : Bool := decide (x = 0.0) || decide (x = -0.0)

/-- Numeric equality: two doubles are the same number if they are equal or both zero, and NaN is
    the same number as nothing, itself included.  Doubles have no identity beyond their value by
    which a NaN could be recognised. -/
def sameNumber (x y : Float) : Bool :=
  !x.isNaN && !y.isNaN && (decide (x = y) || (isZero x && isZero y))

/-- The remainder of a division rounded toward zero, with the sign of the dividend.  It is exact.
    The divisor is not zero; an infinite dividend has no remainder. -/
def remainder (x y : Float) : Option Float :=
  match Binary64.of x, Binary64.of y with
  | .nan, _ => some x
  | _, .nan => some y
  | .infinite _, _ => none
  | .finite .., .infinite _ => some x
  | .finite negative m q, .finite _ n r =>
    let low := min q r
    some (Binary64.assemble negative
      ((m * Nat.pow 2 (q - low).toNat) % (n * Nat.pow 2 (r - low).toNat)) low)

end ArenaLisp.Decimal
