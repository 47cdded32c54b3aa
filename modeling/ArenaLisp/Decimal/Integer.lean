/-!
# Integers in decimal

Integers are written as an optional sign and a non-empty run of ASCII digits, leading zeros
allowed.  Reading is bounded: a run of more than `digitLimit` digits is refused whatever it
stands for.  Values of the language are confined to a signed machine word.

## Main definitions

- `digitsValue`: the number a run of digits stands for.
- `splitSign`: a text without its sign, and whether that is `-`.
- `Reading`: the three outcomes of reading an integer, produced by `readInteger`.
- `inWord`: the range of the integers of the language.
-/

namespace ArenaLisp.Decimal

/-- The least integer of the language. -/
def wordMin : Int := -9223372036854775808

/-- The greatest integer of the language. -/
def wordMax : Int := 9223372036854775807

/-- The integers of the language are those of a signed machine word. -/
def inWord (n : Int) : Bool := decide (wordMin ≤ n) && decide (n ≤ wordMax)

/-- A non-empty run of ASCII digits. -/
def isDigits (text : List Char) : Bool := !text.isEmpty && text.all Char.isDigit

/-- The number that a run of digits stands for. -/
def digitsValue (digits : List Char) : Nat := Nat.ofDigitChars 10 digits 0

/-- The digits of a number, most significant first. -/
def digitsOf (n : Nat) : List Char := Nat.toDigits 10 n

/-- A text without its sign, and whether the sign is `-`. -/
def splitSign : List Char → Bool × List Char
  | '-' :: rest => (true, rest)
  | '+' :: rest => (false, rest)
  | text => (false, text)

/-- A number with a sign put in front. -/
def withSign (negative : Bool) (n : Nat) : Int := if negative then -(n : Int) else n

/-- The longest run of digits that is read as an integer. -/
def digitLimit : Nat := 4300

/-- The outcome of reading a text as an integer: it has not the form of one, it has the form but
    more digits than are read, or it stands for a value. -/
inductive Reading where
  | malformed
  | tooLong (digits : Nat)
  | value (n : Int)
  deriving Repr, DecidableEq

/-- Reads an optional sign and a non-empty run of digits. -/
def readInteger (text : List Char) : Reading :=
  let (negative, digits) := splitSign text
  if isDigits digits then
    if digits.length ≤ digitLimit then .value (withSign negative (digitsValue digits))
    else .tooLong digits.length
  else .malformed

/-- The text of an integer: `-` for a negative one, then the digits without leading zeros. -/
def integerText (n : Int) : String := n.repr

end ArenaLisp.Decimal
