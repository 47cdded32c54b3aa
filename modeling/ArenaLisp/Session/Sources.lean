import ArenaLisp.Text.Blank
import ArenaLisp.Text.Pieces
import ArenaLisp.Token.Lexer

/-!
# Cutting a script into sources

A script is fed to the evaluator source by source.  A source is a run of lines: it starts at a line
that is not blank and goes on for as long as a list or a string is open at the end of the line.
Blank lines between sources are dropped.

## Main definitions

- `isOpen`: whether a text ends inside a list or a string.
- `Source`: a text and the number of its first line.
- `Gathering.add`: one line added to the sources gathered so far.
- **`sources`**: the sources of a text.
-/

namespace ArenaLisp

/-- Whether a sequence of events ends inside a list or a string, with `depth` lists open at its
    start.  A list closed too often counts against later ones; a fault other than the end of the
    text inside a string means that no more input is wanted. -/
def isOpenFrom (depth : Int) : List Lexer.Event → Bool
  | [] => decide (0 < depth)
  | .error (.unterminatedString _) :: _ => true
  | .error _ :: _ => false
  | .ok token :: rest =>
    match token.kind with
    | .opening => isOpenFrom (depth + 1) rest
    | .closing => isOpenFrom (depth - 1) rest
    | _ => isOpenFrom depth rest

/-- Whether a text ends inside a list or a string, so that more lines are needed to complete it. -/
def isOpen (text : List Char) : Bool := isOpenFrom 0 (Lexer.events text)

/-- A source: its text and the number of its first line. -/
structure Source where
  text : List Char
  line : Nat
  deriving Repr, DecidableEq

/-- The sources gathered so far, the latest first, and whether the latest one is still open. -/
structure Gathering where
  sources : List Source := []
  continuing : Bool := false
  deriving Repr, DecidableEq

/-- A line added to the sources gathered so far, and the text that the line now belongs to.  A line
    continues the latest source if that is open; a blank line starts no source. -/
def Gathering.add (g : Gathering) (number : Nat) (line : List Char) : List Char × Gathering :=
  match g.continuing, g.sources with
  | true, latest :: earlier =>
    let text := latest.text ++ '\n' :: line
    (text, { sources := { latest with text } :: earlier, continuing := isOpen text })
  | _, sources =>
    if Text.isBlankLine line then (line, { sources, continuing := isOpen line })
    else (line, { sources := ⟨line, number⟩ :: sources, continuing := isOpen line })

/-- The sources gathered from lines, the first of which has a given number. -/
def Gathering.addAll (g : Gathering) (number : Nat) : List (List Char) → Gathering
  | [] => g
  | line :: rest => (g.add number line).2.addAll (number + 1) rest

/-- **The sources of a text**, in order. -/
def sources (text : List Char) : List Source :=
  (Gathering.addAll {} 1 (Text.lines text)).sources.reverse

end ArenaLisp
