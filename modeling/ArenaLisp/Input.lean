import ArenaLisp.Text.Pieces
import ArenaLisp.Text.Utf8

/-!
# Standard input

Standard input comes in pieces, as the system hands them over.  A piece is decoded as a whole when
a line is asked for that is not there yet: its line ends become line feeds, and what it has beyond
the line is kept for the next one.  A piece may end inside a character or between the two characters
of a line end; the next one goes on with it.  Reading can fail, because the system refuses or
because the bytes are no text, and what had been read of the line is lost then.

## Main definitions

- `HostFault`: a refusal of the system, in its own words.
- `Supply`: what the system hands over at a time.
- `Input`: what has not been read yet.
- `Input.receive`: a piece decoded.
- **`Input.readLine`**: the next line.
-/

namespace ArenaLisp

/-- A refusal of the system: the label under which it is reported, and its message. -/
structure HostFault where
  label : String := "OSError"
  message : String
  deriving Repr, DecidableEq

/-- What the system hands over when it is asked for more: bytes, none at the end of the input, or a
    refusal. -/
inductive Supply where
  | bytes (content : List UInt8)
  | refusal (fault : HostFault)
  deriving Repr, DecidableEq

/-- The size of a supply; it counts even if it holds nothing. -/
def Supply.size : Supply → Nat
  | .bytes content => content.length + 1
  | .refusal _ => 1

/-- The size of several supplies. -/
def Supply.total : List Supply → Nat
  | [] => 0
  | supply :: rest => supply.size + total rest

/-- Why a line cannot be read. -/
inductive InputFault where
  | notText (problem : Text.Utf8.Malformed)
  | refused (fault : HostFault)
  deriving Repr, DecidableEq

/-- What has not been read yet: the text decoded so far, whether a carriage return behind it waits
    for its line feed, the bytes of a character that is not complete, and what the system has still
    to hand over.  After that the input is at its end. -/
structure Input where
  text : List Char := []
  held : Bool := false
  begun : List UInt8 := []
  supplies : List Supply := []
  deriving Repr, DecidableEq

/-- A text as an input that has been decoded already. -/
instance : Coe (List Char) Input := ⟨fun text => { text }⟩

namespace Input

/-- The first line of a text, its line feed included, and what follows. -/
def splitLine : List Char → List Char × List Char
  | [] => ([], [])
  | c :: rest =>
    if c = '\n' then (['\n'], rest)
    else
      let (line, rest) := splitLine rest
      (c :: line, rest)

/-- Whether a line is complete. -/
def isLine (line : List Char) : Bool := line.getLast? = some '\n'

/-- A decoded text with its line ends written as line feeds, and whether a carriage return at its
    end waits for what follows.  `held` says that one is waiting already, `last` that nothing
    follows. -/
def unify (held last : Bool) (text : List Char) : List Char × Bool :=
  let freed := held && (last || !text.isEmpty)
  let text := if freed then '\r' :: text else text
  if !last && decide (text.getLast? = some '\r') then (Text.unifyNewlines text.dropLast, true)
  else (Text.unifyNewlines text, held && !freed)

/-- Decodes a piece behind the bytes of a character that is not complete; an empty piece is the
    end.  The text joins what there is. -/
def receive (i : Input) (piece : List UInt8) : Except Text.Utf8.Malformed Input :=
  let bytes := i.begun ++ piece
  let decoded :=
    if piece.isEmpty then (Text.Utf8.decode bytes).map (·, []) else Text.Utf8.decodeBegun bytes
  decoded.map fun (text, begun) =>
    let (text, held) := unify i.held piece.isEmpty text
    { i with text := i.text ++ text, held, begun }

/-- Reads a line that starts with `before`, of which nothing more is decoded: pieces are taken until
    one completes it or the input is at its end.  The state keeps what is decoded beyond the
    line. -/
def readFrom (before : List Char) (held : Bool) (begun : List UInt8) :
    List Supply → Except InputFault (List Char) × Input
  | [] =>
    match receive { held, begun } [] with
    | .error problem => (.error (.notText problem), { held, begun })
    | .ok last => (.ok (before ++ last.text), { last with text := [] })
  | .refusal fault :: supplies => (.error (.refused fault), { held, begun, supplies })
  | .bytes piece :: supplies =>
    match receive { held, begun } piece with
    | .error problem => (.error (.notText problem), { held, begun, supplies })
    | .ok next =>
      let (line, text) := splitLine next.text
      if isLine line || (piece.isEmpty && line.isEmpty) then
        (.ok (before ++ line), { next with text, supplies })
      else readFrom (before ++ line) next.held next.begun supplies

/-- **Reads a line**, its line feed included.  At the end of the input the line may lack one, and
    is empty if nothing was left. -/
def readLine (i : Input) : Except InputFault (List Char) × Input :=
  let (line, text) := splitLine i.text
  if isLine line then (.ok line, { i with text })
  else readFrom line i.held i.begun i.supplies

/-- What is left to hand over after another program took a number of bytes.  A refusal that it met
    on the way is gone as well. -/
def skip : Nat → List Supply → List Supply
  | 0, supplies => supplies
  | _, [] => []
  | count + 1, .refusal _ :: supplies => skip (count + 1) supplies
  | count + 1, .bytes content :: supplies =>
    if count + 1 < content.length then .bytes (content.drop (count + 1)) :: supplies
    else skip (count + 1 - content.length) supplies

/-- How much is left, counted such that every line that is read makes it less. -/
def size (i : Input) : Nat :=
  i.text.length + i.held.toNat + i.begun.length + Supply.total i.supplies

end Input

end ArenaLisp
