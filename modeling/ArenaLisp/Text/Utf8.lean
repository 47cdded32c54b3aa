import ArenaLisp.Text.Quoted

/-!
# Texts as bytes

Strict UTF-8: a byte sequence either decodes to a text or is refused at its first ill-formed
sequence, with the place, the extent and the reason of the refusal.

## Main definitions

- `Utf8.encode`: the bytes of a text.
- `Utf8.Malformed`: the place and the reason of a refusal, worded by `Utf8.Malformed.message`.
- `Utf8.decode`: the text of a byte sequence.
- `Utf8.decodeBegun`: the text of a byte sequence that may go on.
-/

namespace ArenaLisp.Text.Utf8

/-- The bytes of a text. -/
def encode (text : List Char) : List UInt8 := text.flatMap String.utf8EncodeChar

/-- Why a sequence of bytes is ill-formed. -/
inductive Reason where
  | startByte
  | continuationByte
  | endOfData
  deriving Repr, DecidableEq

/-- The first ill-formed sequence of a text: where it starts, its first byte, how many bytes it
    takes (its longest well-formed beginning) and what is wrong with it. -/
structure Malformed where
  position : Nat
  byte : UInt8
  length : Nat
  reason : Reason
  deriving Repr, DecidableEq

/-- The wording of a reason. -/
def Reason.message : Reason → String
  | .startByte => "invalid start byte"
  | .continuationByte => "invalid continuation byte"
  | .endOfData => "unexpected end of data"

/-- The wording of a refusal: one byte is shown, several are given by their positions. -/
def Malformed.message (m : Malformed) : String :=
  let place :=
    if m.length ≤ 1 then
      "byte 0x" ++ String.ofList (hexPadded 2 m.byte.toNat) ++ " in position " ++
        toString m.position
    else
      "bytes in position " ++ toString m.position ++ "-" ++ toString (m.position + m.length - 1)
  "'utf-8' codec can't decode " ++ place ++ ": " ++ m.reason.message

/-- A continuation byte, 80 to BF. -/
def isContinuation (b : UInt8) : Bool := 0x80 ≤ b && b ≤ 0xBF

/-- The second bytes that may follow the first byte of a sequence of three or four: the ends of
    the range exclude overlong forms, surrogates and what lies above U+10FFFF. -/
def isSecond (first second : UInt8) : Bool :=
  isContinuation second &&
    (if first = 0xE0 then 0xA0 ≤ second
     else if first = 0xED then second ≤ 0x9F
     else if first = 0xF0 then 0x90 ≤ second
     else if first = 0xF4 then second ≤ 0x8F
     else true)

/-- The six payload bits of a continuation byte. -/
def payload (b : UInt8) : Nat := b.toNat % 64

/-- How many bytes the sequence with this first byte has: one to four, or none. -/
def width (first : UInt8) : Option Nat :=
  if first < 0x80 then some 1
  else if first < 0xC2 then none
  else if first < 0xE0 then some 2
  else if first < 0xF0 then some 3
  else if first < 0xF5 then some 4
  else none

/-- The text of a byte sequence that starts at `position` of the whole. -/
def decodeFrom (position : Nat) : List UInt8 → Except Malformed (List Char)
  | [] => .ok []
  | a :: rest =>
    let refuse (length : Nat) (reason : Reason) : Except Malformed (List Char) :=
      .error ⟨position, a, length, reason⟩
    match width a, rest with
    | none, _ => refuse 1 .startByte
    | some 1, rest => (decodeFrom (position + 1) rest).map (Char.ofNat a.toNat :: ·)
    | some _, [] => refuse 1 .endOfData
    | some 2, b :: rest =>
      if isContinuation b then
        (decodeFrom (position + 2) rest).map
          (Char.ofNat (a.toNat % 32 * 64 + payload b) :: ·)
      else refuse 1 .continuationByte
    | some 3, b :: rest =>
      if isSecond a b then
        match rest with
        | [] => refuse 2 .endOfData
        | c :: rest =>
          if isContinuation c then
            (decodeFrom (position + 3) rest).map
              (Char.ofNat (a.toNat % 16 * 4096 + payload b * 64 + payload c) :: ·)
          else refuse 2 .continuationByte
      else refuse 1 .continuationByte
    | some _, b :: rest =>
      if isSecond a b then
        match rest with
        | [] => refuse 2 .endOfData
        | c :: rest =>
          if isContinuation c then
            match rest with
            | [] => refuse 3 .endOfData
            | d :: rest =>
              if isContinuation d then
                (decodeFrom (position + 4) rest).map
                  (Char.ofNat (a.toNat % 8 * 262144 + payload b * 4096 + payload c * 64 + payload d)
                    :: ·)
              else refuse 3 .continuationByte
          else refuse 2 .continuationByte
      else refuse 1 .continuationByte

/-- The text of a byte sequence, or its first ill-formed sequence. -/
def decode (bytes : List UInt8) : Except Malformed (List Char) := decodeFrom 0 bytes

/-- The text of a byte sequence that may go on, and the bytes at its end that begin a character and
    do not complete it. -/
def decodeBegun (bytes : List UInt8) : Except Malformed (List Char × List UInt8) :=
  match decode bytes with
  | .ok text => .ok (text, [])
  | .error problem =>
    if problem.reason = .endOfData then
      (decode (bytes.take problem.position)).map fun text => (text, bytes.drop problem.position)
    else .error problem

end ArenaLisp.Text.Utf8
