import ArenaLisp.Text.Printable

/-!
# Quoted texts

How a text is shown inside a diagnostic or in the description of a value: between quotes, with
everything that would be ambiguous or invisible escaped.

## Main definitions

- `Quoted.mark`: the quote in use, `'` unless only `'` occurs in the text.
- `Quoted.escape`: the written form of one character.
- `quoted`: the whole text between its quotes.
-/

namespace ArenaLisp.Text

/-- The digits of a number in base sixteen, padded with zeros on the left to a given width. -/
def hexPadded (width n : Nat) : List Char :=
  let digits := Nat.toDigits 16 n
  List.replicate (width - digits.length) '0' ++ digits

namespace Quoted

/-- The quote in use: a text that holds `'` and no `"` goes between `"`, any other between `'`. -/
def mark (text : List Char) : Char :=
  if text.contains '\'' && !text.contains '"' then '"' else '\''

/-- A character by its number: two digits below U+0100, four below U+10000, eight above. -/
def byNumber (c : Char) : List Char :=
  if c.toNat < 0x100 then '\\' :: 'x' :: hexPadded 2 c.toNat
  else if c.toNat < 0x10000 then '\\' :: 'u' :: hexPadded 4 c.toNat
  else '\\' :: 'U' :: hexPadded 8 c.toNat

/-- The written form of one character between two `quote`s. -/
def escape (quote c : Char) : List Char :=
  if c = '\\' then ['\\', '\\']
  else if c = quote then ['\\', c]
  else if c = '\n' then ['\\', 'n']
  else if c = '\r' then ['\\', 'r']
  else if c = '\t' then ['\\', 't']
  else if isPrintable c then [c]
  else byNumber c

end Quoted

/-- A text between quotes, escaped so that its extent and its characters can be told. -/
def quoted (text : String) : String :=
  let chars := text.toList
  let quote := Quoted.mark chars
  String.ofList (quote :: (chars.flatMap (Quoted.escape quote) ++ [quote]))

end ArenaLisp.Text
