import ArenaLisp.Node
import ArenaLisp.Token.Lexer

/-!
# From tokens to nodes

Reading groups the tokens of a source into one node per balanced top-level form.  The reader keeps
the lists that are still open, innermost first, each with its items in reverse.  A fault abandons
these lists; reading goes on with the token that follows.

## Main definitions

- `ReadFault`: why a form cannot be read.
- `classify`: what a symbol token stands for.
- `Reader.step`, `Reader.finish`: the effect of one event of the lexer, and of the end.
- **`Reader.forms`**: the top-level forms and faults of a source, in order.
- `parse`: the forms of a source, or its first fault.
-/

namespace ArenaLisp

/-- Why a form cannot be read: the source is malformed, an integer literal has too many digits or
    does not fit a machine word, a list is closed that was never opened, a token has no meaning,
    or the source ends with `open` lists unclosed. -/
inductive ReadFault where
  | lexical (fault : LexFault)
  | tooManyDigits (digits : Nat)
  | literalOutOfRange (text : String)
  | closedWithoutList
  | unexpectedToken (token : Token)
  | unclosed (lists : Nat)
  deriving Repr, DecidableEq

/-- What a symbol token stands for: an integer if it has the form of one, else a float if it has
    the form of one, else a symbol. -/
def classify (text : String) : Except ReadFault Node :=
  match Decimal.readInteger text.toList with
  | .tooLong digits => .error (.tooManyDigits digits)
  | .value n =>
    if Decimal.inWord n then .ok (.literal (.integer n)) else .error (.literalOutOfRange text)
  | .malformed =>
    match Decimal.plainFloat? text.toList with
    | some x => .ok (.literal (.float x))
    | none => .ok (.symbol text)

namespace Reader

/-- The lists that are still open, innermost first, each with its items in reverse. -/
abbrev Open := List (List Node)

/-- A completed node goes into the innermost open list; with no list open it is a form. -/
def place (node : Node) : Open → Option (Except ReadFault Node) × Open
  | [] => (some (.ok node), [])
  | items :: outer => (none, (node :: items) :: outer)

/-- A fault is reported and abandons all open lists. -/
def abandon (fault : ReadFault) : Option (Except ReadFault Node) × Open := (some (.error fault), [])

/-- What one token does to the open lists, and the form or fault it completes. -/
def stepToken (token : Token) (lists : Open) : Option (Except ReadFault Node) × Open :=
  match token.kind with
  | .opening => (none, [] :: lists)
  | .closing =>
    match lists with
    | [] => abandon .closedWithoutList
    | items :: outer => place (.list items.reverse) outer
  | .string => place (.literal (.string token.text)) lists
  | .symbol =>
    match classify token.text with
    | .ok node => place node lists
    | .error fault => abandon fault
  | .bare => abandon (.unexpectedToken token)

/-- What one event of the lexer does. -/
def step (event : Lexer.Event) (lists : Open) : Option (Except ReadFault Node) × Open :=
  match event with
  | .ok token => stepToken token lists
  | .error fault => abandon (.lexical fault)

/-- What the end of the source completes: a fault if lists are open. -/
def finish (lists : Open) : Option (Except ReadFault Node) :=
  if lists.isEmpty then none else some (.error (.unclosed lists.length))

/-- The forms and faults of a sequence of events, with some lists already open. -/
def formsFrom (lists : Open) : List Lexer.Event → List (Except ReadFault Node)
  | [] => (finish lists).toList
  | event :: rest =>
    let (form, lists) := step event lists
    form.toList ++ formsFrom lists rest

/-- **The forms of a sequence of events**, nodes and faults in order. -/
def forms (events : List Lexer.Event) : List (Except ReadFault Node) := formsFrom [] events

end Reader

/-- The forms of a list of tokens, or the first fault. -/
def parseTokens (tokens : List Token) : Except ReadFault (List Node) :=
  firstFault (Reader.forms (tokens.map .ok))

/-- The forms of a source, or its first fault. -/
def parse (source : String) : Except ReadFault (List Node) :=
  firstFault (Reader.forms (Lexer.events source.toList))

end ArenaLisp
