import ArenaLisp.Text.Blank
import ArenaLisp.Token

/-!
# From text to tokens

Lexing is one walk over the characters of a source by an automaton of five modes.  Each character
is consumed once and moves the automaton; what has been completed is emitted as an *event*, a
token or a fault.  After a fault the automaton starts afresh on the characters that follow, so a
source yields its events to the very end.  An event is recorded together with the place that was
reached and the characters that had not been read yet.

## Main definitions

- `Position`: line and column, moved over a character by `Position.after`.
- `LexFault`: the three ways in which a source is malformed.
- `Lexer.Mode`: what the automaton is in the middle of.
- `Lexer.step`, `Lexer.finish`: the events of one character, and of the end of the source.
- **`Lexer.pulls`**: the events of a source, in order.
- `Lexer.tokens`: the tokens of a source, or its first fault.
-/

namespace ArenaLisp

/-- A place in a source: the number of the line, and how many characters of that line have been
    consumed. -/
structure Position where
  line : Nat
  column : Nat
  deriving Repr, DecidableEq

namespace Position

/-- The place before the first character. -/
def start : Position := ⟨1, 0⟩

/-- The place behind a character: a line feed starts the next line. -/
def after (p : Position) (c : Char) : Position :=
  if c = '\n' then ⟨p.line + 1, 0⟩ else ⟨p.line, p.column + 1⟩

/-- The place behind a text. -/
def afterAll (p : Position) (text : List Char) : Position := text.foldl after p

end Position

/-- The ways in which a source is malformed: a character that starts no token, a character that
    cannot stand inside a symbol, and the end of the source inside a string.  The first two name
    the place of the character, the last the place of the opening quote. -/
inductive LexFault where
  | invalidToken (c : Char) (place : Position)
  | invalidCharacter (c : Char) (symbol : String) (place : Position)
  | unterminatedString (place : Position)
  deriving Repr, DecidableEq

namespace Lexer

/-- The characters that symbols are made of: the visible ASCII characters other than parentheses
    and the double quote. -/
def isSymbolChar (c : Char) : Bool :=
  decide (0x21 ≤ c.toNat) && decide (c.toNat ≤ 0x7E) &&
    decide (c ≠ '(') && decide (c ≠ ')') && decide (c ≠ '"')

/-- A control character, which ends a comment. -/
def isControl (c : Char) : Bool := decide (c.toNat < 0x20) || decide (c.toNat = 0x7F)

/-- An event of lexing: a token or a fault. -/
abbrev Event := Except LexFault Token

/-- What the automaton is in the middle of.  Strings and symbols hold the characters collected so
    far, the last one first; a string also holds the place of its opening quote. -/
inductive Mode where
  | gap
  | comment
  | string (opened : Position) (collected : List Char)
  | escape (opened : Position) (collected : List Char)
  | symbol (collected : List Char)
  deriving Repr, DecidableEq

/-- The token of a string whose characters were collected. -/
def stringToken (collected : List Char) : Token := ⟨.string, String.ofList collected.reverse⟩

/-- The token of a symbol whose characters were collected. -/
def symbolToken (collected : List Char) : Token := ⟨.symbol, String.ofList collected.reverse⟩

/-- A character between tokens, at its place. -/
def stepGap (c : Char) (place : Position) : List Event × Mode :=
  if Text.isBlank c then ([], .gap)
  else if c = '#' then ([], .comment)
  else if c = '(' then ([.ok .openParen], .gap)
  else if c = ')' then ([.ok .closeParen], .gap)
  else if c = '"' then ([], .string place [])
  else if isSymbolChar c then ([], .symbol [c])
  else ([.error (.invalidToken c place)], .gap)

/-- The events that a character completes, and the mode it leaves the automaton in.  A parenthesis
    ends a symbol and is a token too; a character that no symbol can hold drops the symbol. -/
def step (c : Char) (place : Position) : Mode → List Event × Mode
  | .gap => stepGap c place
  | .comment => if isControl c then stepGap c place else ([], .comment)
  | .string opened collected =>
    if c = '"' then ([.ok (stringToken collected)], .gap)
    else if c = '\\' then ([], .escape opened collected)
    else ([], .string opened (c :: collected))
  | .escape opened collected => ([], .string opened (c :: collected))
  | .symbol collected =>
    if Text.isBlank c then ([.ok (symbolToken collected)], .gap)
    else if c = '(' then ([.ok (symbolToken collected), .ok .openParen], .gap)
    else if c = ')' then ([.ok (symbolToken collected), .ok .closeParen], .gap)
    else if isSymbolChar c then ([], .symbol (c :: collected))
    else
      ([.error (.invalidCharacter c (String.ofList collected.reverse) place)], .gap)

/-- The events that the end of the source completes: a symbol ends there, a string cannot. -/
def finish : Mode → List Event
  | .gap => []
  | .comment => []
  | .string opened _ => [.error (.unterminatedString opened)]
  | .escape opened _ => [.error (.unterminatedString opened)]
  | .symbol collected => [.ok (symbolToken collected)]

/-- An event, the place reached when it was emitted, and the characters still unread then. -/
structure Pull where
  event : Event
  position : Position
  unread : List Char

/-- The events of a source from a place and a mode on. -/
def pullsFrom (place : Position) (mode : Mode) : List Char → List Pull
  | [] => (finish mode).map fun event => ⟨event, place, []⟩
  | c :: rest =>
    let place := place.after c
    let (events, mode) := step c place mode
    events.map (fun event => ⟨event, place, rest⟩) ++ pullsFrom place mode rest

/-- **The events of a source**, tokens and faults in order. -/
def pulls (source : List Char) : List Pull := pullsFrom .start .gap source

/-- The events of a source without their places. -/
def events (source : List Char) : List Event := (pulls source).map (·.event)

end Lexer

/-- A list of outcomes that all succeeded, or the first fault among them. -/
def firstFault : List (Except ε α) → Except ε (List α)
  | [] => .ok []
  | .error fault :: _ => .error fault
  | .ok a :: rest => (firstFault rest).map (a :: ·)

/-- The tokens of a source, or its first fault. -/
def Lexer.tokens (source : List Char) : Except LexFault (List Token) :=
  firstFault (Lexer.events source)

end ArenaLisp
