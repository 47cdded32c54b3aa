import ArenaLisp.Text.Utf8

/-!
# Texts byte by byte

Command lines know bytes and nothing else: lengths, patterns and columns all count bytes.  A text is
held as a list of characters each of which stands for the byte with its code, so that the letters
of the command language can be written as letters.

## Main definitions

- `Octets`: a text byte by byte.
- `octets`, `textOf`: from a text of the language and back.
- `ofBytes`, `bytesOf`: from the contents of a file and back.
- `isNameStart`, `isNameChar`, `isName`: the names of variables.
-/

namespace ArenaLisp.Shell

/-- A text byte by byte: each character stands for the byte with its code. -/
abbrev Octets := List Char

/-- Bytes as characters. -/
def ofBytes (bytes : List UInt8) : Octets := bytes.map fun b => Char.ofNat b.toNat

/-- The bytes that characters stand for. -/
def bytesOf (text : Octets) : List UInt8 := text.map fun c => c.toNat.toUInt8

/-- The bytes of a text. -/
def octets (text : String) : Octets := ofBytes (Text.Utf8.encode text.toList)

/-- The text that bytes stand for; bytes that are no text are left as they are. -/
def textOf (text : Octets) : String :=
  match Text.Utf8.decode (bytesOf text) with
  | .ok chars => String.ofList chars
  | .error _ => String.ofList text

/-- The characters that start a name. -/
def isNameStart (c : Char) : Bool := c.isAlpha || c = '_'

/-- The characters of a name. -/
def isNameChar (c : Char) : Bool := c.isAlphanum || c = '_'

/-- Whether a text is the name of a variable. -/
def isName : Octets → Bool
  | [] => false
  | c :: rest => isNameStart c && rest.all isNameChar

/-- Blank characters within a line. -/
def isBlank (c : Char) : Bool := c = ' ' || c = '\t'

/-- Blank characters of any kind. -/
def isSpace (c : Char) : Bool := c = ' ' || (9 ≤ c.toNat && c.toNat ≤ 13)

/-- A text without the line feeds at its end. -/
def withoutFinalFeeds (text : Octets) : Octets := (text.reverse.dropWhile (· = '\n')).reverse

/-- The lines of a text, each without its line feed; a final line feed starts none. -/
def linesOf (text : Octets) : List Octets :=
  let (last, lines) := text.foldr
    (fun c (current, lines) => if c = '\n' then ([], current :: lines) else (c :: current, lines))
    (([], []) : Octets × List Octets)
  let all := last :: lines
  if all.getLast? = some [] then all.dropLast else all

/-- Lines as a text, each with a line feed. -/
def unlines (lines : List Octets) : Octets := lines.flatMap (· ++ ['\n'])

/-- The digits of a number. -/
def digits (n : Nat) : Octets := Nat.toDigits 10 n

/-- The text of an integer. -/
def integerDigits (n : Int) : Octets := n.repr.toList

/-- A text filled up with spaces in front. -/
def padLeft (width : Nat) (text : Octets) : Octets :=
  List.replicate (width - text.length) ' ' ++ text

/-- Whether one text comes before another one or equals it, byte by byte. -/
def octetsLe : Octets → Octets → Bool
  | [], _ => true
  | _ :: _, [] => false
  | a :: as, b :: bs => decide (a < b) || (decide (a = b) && octetsLe as bs)

end ArenaLisp.Shell
