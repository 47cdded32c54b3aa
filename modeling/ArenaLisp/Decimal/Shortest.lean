import ArenaLisp.Decimal.Binary64
import ArenaLisp.Decimal.Integer

/-!
# The text of a float

A double is written with the fewest significant digits whose text reads back to it; of two texts
of that length the nearer one is taken, and an exact tie goes to the even last digit.  Reading is
part of the definition of writing: a text is only chosen after it has been read back, so that a
text in positional form always reads back to the double that it was written for.

## Main definitions

- `plainFloat?`: reads the float literals of the language, which have a point and no exponent.
- `float?`: reads every written form, exponents and special values included.
- `Layout`: digits and the place of the point, laid out by `Layout.text`.
- `neighbours`: the two decimals of a given length around a value, nearer one first.
- **`floatText`**: the shortest text that reads back.
-/

namespace ArenaLisp.Decimal

/-! ## Reading -/

/-- An unsigned literal with a point: digits, the point, digits, with at least one digit. -/
def unsignedPlain? (text : List Char) : Option Float :=
  let whole := text.takeWhile Char.isDigit
  match text.dropWhile Char.isDigit with
  | '.' :: fraction =>
    if fraction.all Char.isDigit && !(whole.isEmpty && fraction.isEmpty) then
      some (Float.ofScientific (digitsValue (whole ++ fraction)) true fraction.length)
    else none
  | _ => none

/-- A float with a sign put in front. -/
def withFloatSign (negative : Bool) (x : Float) : Float := if negative then -x else x

/-- Reads a float literal: an optional sign, then digits on at least one side of a point.  The
    value is rounded correctly, and one beyond the range is infinite. -/
def plainFloat? (text : List Char) : Option Float :=
  let (negative, rest) := splitSign text
  (unsignedPlain? rest).map (withFloatSign negative)

/-- An exponent: an optional sign and digits. -/
def exponent? (text : List Char) : Option Int :=
  let (negative, digits) := splitSign text
  if isDigits digits then some (withSign negative (digitsValue digits)) else none

/-- An unsigned decimal with an optional fraction and an optional exponent. -/
def unsignedScientific? (text : List Char) : Option Float :=
  let mantissa := text.takeWhile (· ≠ 'e')
  let whole := mantissa.takeWhile Char.isDigit
  let fraction? := match mantissa.dropWhile Char.isDigit with
    | [] => some []
    | '.' :: digits => if digits.all Char.isDigit then some digits else none
    | _ => none
  let exponent := match text.dropWhile (· ≠ 'e') with
    | [] => some 0
    | _ :: rest => exponent? rest
  match fraction?, exponent with
  | some fraction, some e =>
    if whole.isEmpty && fraction.isEmpty then none
    else
      let scale := e - fraction.length
      some (Float.ofScientific (digitsValue (whole ++ fraction)) (decide (scale < 0)) scale.natAbs)
  | _, _ => none

/-- Reads any written form of a float: a decimal, `inf` or `nan`, with an optional sign. -/
def float? (text : List Char) : Option Float :=
  let (negative, rest) := splitSign text
  let magnitude? :=
    if rest = "inf".toList then some (Float.ofBits 0x7FF0000000000000)
    else if rest = "nan".toList then some (Float.ofBits 0x7FF8000000000000)
    else unsignedScientific? rest
  magnitude?.map (withFloatSign negative)

/-! ## Laying out -/

/-- A decimal ready to be written: the value is 0.d₁d₂…dₙ · 10^point. -/
structure Layout where
  digits : List Char
  point : Int
  deriving Repr, DecidableEq

namespace Layout

/-- The exponents of the leading digit that are written positionally: from -4 up to 15. -/
def isPlain (d : Layout) : Bool := decide (-4 < d.point) && decide (d.point ≤ 16)

/-- Positional form: the point stands after, inside or before the digits, and there is a digit on
    each side of it. -/
def plain (d : Layout) : List Char :=
  if d.point ≤ 0 then
    '0' :: '.' :: (List.replicate (-d.point).toNat '0' ++ d.digits)
  else if d.point < d.digits.length then
    d.digits.take d.point.toNat ++ '.' :: d.digits.drop d.point.toNat
  else
    d.digits ++ List.replicate (d.point.toNat - d.digits.length) '0' ++ ['.', '0']

/-- Exponent form: one digit, the others behind a point, the signed exponent of two digits or
    more. -/
def scientific (d : Layout) : List Char :=
  let exponent := d.point - 1
  let sign := if exponent < 0 then '-' else '+'
  let digits := digitsOf exponent.natAbs
  let padded := if digits.length < 2 then '0' :: digits else digits
  let mantissa := match d.digits with
    | first :: second :: rest => first :: '.' :: second :: rest
    | short => short
  mantissa ++ 'e' :: sign :: padded

/-- The text of a decimal, positional or with an exponent as its size demands. -/
def text (d : Layout) : List Char := if d.isPlain then d.plain else d.scientific

/-- Whether the text of a decimal reads back to a given double.  Positional texts are read as
    literals are. -/
def readsAs (d : Layout) (x : Float) : Bool :=
  if d.isPlain then decide (unsignedPlain? d.plain = some x)
  else decide (unsignedScientific? d.scientific = some x)

end Layout

/-! ## Choosing the digits -/

/-- A decimal from its significant digits as a number: trailing zeros are dropped. -/
def layoutOf (significand length : Nat) (point : Int) : Layout :=
  let digits := digitsOf significand
  { digits := (digits.reverse.dropWhile (· = '0')).reverse
    point := point + digits.length - length }

/-- The place of the point in front of which the leading digit of numerator / denominator stands:
    the number of digits of the value's whole part, after a shift that makes it exceed one. -/
def pointOf (numerator denominator : Nat) : Int :=
  (digitsOf (numerator * Nat.pow 10 400 / denominator)).length - 400

/-- The two decimals of `length` significant digits around numerator / denominator, whose point is
    known: the nearer one first, at an exact tie the one with the even last digit. -/
def neighbours (numerator denominator : Nat) (point : Int) (length : Nat) : List Layout :=
  let shift := (length : Int) - point
  let top := numerator * Nat.pow 10 shift.toNat
  let bottom := denominator * Nat.pow 10 (-shift).toNat
  let below := top / bottom
  let lower := layoutOf below length point
  let upper := layoutOf (below + 1) length point
  match compare (2 * (top % bottom)) bottom with
  | .lt => [lower, upper]
  | .gt => [upper, lower]
  | .eq => if below % 2 = 0 then [lower, upper] else [upper, lower]

/-- The text of the positive double x = m · 2^q: the first decimal of one to seventeen digits that
    reads back.  Seventeen digits always suffice; were it otherwise, the value would be written
    with an exponent. -/
def positiveText (x : Float) (mantissa : Nat) (exponent : Int) : List Char :=
  let numerator := mantissa * Nat.pow 2 exponent.toNat
  let denominator := Nat.pow 2 (-exponent).toNat
  let around := neighbours numerator denominator (pointOf numerator denominator)
  let found := (List.range 17).findSome? fun n => (around (n + 1)).find? (·.readsAs x)
  (found.map Layout.text).getD (Layout.scientific ⟨digitsOf numerator, 0⟩)

/-- The text of a double: the fewest digits that read back, with the sign in front. -/
def floatText (x : Float) : String :=
  let signed (negative : Bool) (text : List Char) : String :=
    String.ofList (if negative then '-' :: text else text)
  match Binary64.of x with
  | .nan => "nan"
  | .infinite negative => signed negative "inf".toList
  | .finite negative 0 _ => signed negative "0.0".toList
  | .finite negative m q => signed negative (positiveText (withFloatSign negative x) m q)

end ArenaLisp.Decimal
