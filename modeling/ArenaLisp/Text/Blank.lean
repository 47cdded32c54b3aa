/-!
# Blank characters

A character class is a list of closed ranges of code points, ascending and apart; membership is
one walk that stops at the first range lying above the point.  This module holds that walk and
the class that separates tokens, empties lines and is stripped from both ends of a typed line.

## Main definitions

- `inRanges`: membership of a code point in an ascending list of ranges.
- `isBlank`: the white space of the language, 29 code points.
- `strip`: a text without the blanks at its two ends.
- `isBlankLine`: a text of blanks only.
-/

namespace ArenaLisp.Text

/-- Membership of a code point in a list of closed ranges, ascending and apart: the walk stops at
    the first range that lies above the point. -/
def inRanges : List (Nat × Nat) → Nat → Bool
  | [], _ => false
  | (low, high) :: rest, n => decide (low ≤ n) && (decide (n ≤ high) || inRanges rest n)

/-- The code points of white space: the Unicode property together with the four separators
    U+001C to U+001F. -/
def blankRanges : List (Nat × Nat) :=
  [(0x09, 0x0D), (0x1C, 0x20), (0x85, 0x85), (0xA0, 0xA0), (0x1680, 0x1680), (0x2000, 0x200A),
   (0x2028, 0x2029), (0x202F, 0x202F), (0x205F, 0x205F), (0x3000, 0x3000)]

/-- White space: it separates tokens and carries no meaning of its own. -/
def isBlank (c : Char) : Bool := inRanges blankRanges c.toNat

/-- A text without the blanks at its two ends. -/
def strip (text : List Char) : List Char :=
  ((text.dropWhile isBlank).reverse.dropWhile isBlank).reverse

/-- A text that holds nothing but blanks, the empty text included. -/
def isBlankLine (text : List Char) : Bool := text.all isBlank

end ArenaLisp.Text
