import ArenaLisp.Decimal.Binary64

/-!
# Decimals of a given length

A double written with a given number of decimal places, or with a given number of digits and an
exponent.  The number is rounded exactly; a tie goes to the even last digit.

## Main definitions

- `roundDiv`: a quotient rounded to the nearest integer.
- `scaled`: a number times a power of ten, rounded.
- `exponentOf`: the decimal exponent of a number written with a given number of digits.
-/

namespace ArenaLisp.Decimal

/-- A quotient rounded to the nearest integer, a tie to the even one. -/
def roundDiv (numerator denominator : Nat) : Nat :=
  let quotient := numerator / denominator
  let twice := 2 * (numerator % denominator)
  if denominator < twice ∨ (twice = denominator ∧ quotient % 2 = 1) then quotient + 1
  else quotient

/-- The number m · 2^q · 10^places, rounded. -/
def scaled (mantissa : Nat) (exponent : Int) (places : Int) : Nat :=
  let up := mantissa * Nat.pow 2 exponent.toNat * Nat.pow 10 places.toNat
  roundDiv up (Nat.pow 2 (-exponent).toNat * Nat.pow 10 (-places).toNat)

/-- The decimal exponent of m · 2^q when it is written with a given number of digits behind the
    first one, with the number that these digits make.  The search starts above the exponent and
    goes down; `fuel` bounds its steps. -/
def exponentFrom (mantissa : Nat) (exponent : Int) (places : Nat) : Nat → Int → Int × Nat
  | 0, guess => (guess, 0)
  | fuel + 1, guess =>
    let found := scaled mantissa exponent (places - guess)
    if Nat.pow 10 places ≤ found then (guess, found)
    else exponentFrom mantissa exponent places fuel (guess - 1)

/-- The decimal exponent of m · 2^q and the number that its digits make; zero has exponent 0. -/
def exponentOf (mantissa : Nat) (exponent : Int) (places : Nat) : Int × Nat :=
  if mantissa = 0 then (0, 0)
  else
    let bound := ((mantissa.log2 + 1 : Nat) + exponent) * 30103 / 100000 + 1
    exponentFrom mantissa exponent places 4 bound

end ArenaLisp.Decimal
