/-!
# Cutting texts into pieces

Texts are cut at each leftmost occurrence of a separator, occurrences not overlapping, and into
lines at line feeds only.  Both cuts keep every character that is not part of a separator.

## Main definitions

- `pieces`: the pieces of a text between the occurrences of a separator.
- `lines`: the lines of a text; a final line feed ends the last line and starts none.
- `withoutReturn`: a line without one carriage return at its end.
- `unifyNewlines`: a text with its three kinds of line end written as a line feed.
-/

namespace ArenaLisp.Text

/-- One walk over a text that is cut at `separator`: the piece in progress and the pieces after
    it.  `skip` characters still belong to an occurrence that has begun. -/
def piecesFrom (separator : List Char) : Nat → List Char → List Char × List (List Char)
  | _, [] => ([], [])
  | skip + 1, _ :: text => piecesFrom separator skip text
  | 0, c :: text =>
    if separator.isPrefixOf (c :: text) then
      let (piece, rest) := piecesFrom separator (separator.length - 1) text
      ([], piece :: rest)
    else
      let (piece, rest) := piecesFrom separator 0 text
      (c :: piece, rest)

/-- The pieces of a text between the leftmost, non-overlapping occurrences of a non-empty
    separator.  There is always at least one. -/
def pieces (separator text : List Char) : List (List Char) :=
  let (piece, rest) := piecesFrom separator 0 text
  piece :: rest

/-- A list of pieces without its last one, if that is empty. -/
def dropFinalEmpty : List (List Char) → List (List Char)
  | [] => []
  | [[]] => []
  | piece :: rest => piece :: dropFinalEmpty rest

/-- The lines of a text, cut at line feeds only. -/
def lines (text : List Char) : List (List Char) := dropFinalEmpty (pieces ['\n'] text)

/-- A line without one carriage return at its end. -/
def withoutReturn (line : List Char) : List Char :=
  if line.getLast? = some '\r' then line.dropLast else line

/-- A text with each line end, be it a line feed, a carriage return or the pair of both, written
    as one line feed. -/
def unifyNewlines : List Char → List Char
  | [] => []
  | '\r' :: '\n' :: rest => '\n' :: unifyNewlines rest
  | '\r' :: rest => '\n' :: unifyNewlines rest
  | c :: rest => c :: unifyNewlines rest

end ArenaLisp.Text
