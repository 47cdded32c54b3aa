import ArenaLisp.Shell.Token

/-!
# Reading tokens

A command line is cut into tokens from left to right.  The text of a here-document starts on the
line after its mark; it is read when that line is reached and put in the place of the mark.

## Main definitions

- `HereMark`: what is known of a here-document before its text is reached.
- `hereText`: the text of a here-document.
- **`tokens`**: the tokens of a command line.
-/

namespace ArenaLisp.Shell

/-- A here-document whose text has not been reached yet: the stream, the line that ends it, whether
    its text is taken as it is, and whether tabs in front of its lines are dropped. -/
structure HereMark where
  stream : Nat
  delimiter : Octets
  isLiteral : Bool
  dropsTabs : Bool

/-- The lines up to the delimiter and the text after it; at most `fuel` lines. -/
def hereLines (mark : HereMark) : Nat → Octets → Octets × Octets
  | 0, rest => ([], rest)
  | _, [] => ([], [])
  | fuel + 1, text =>
    let line := text.takeWhile (· ≠ '\n')
    let rest := (text.dropWhile (· ≠ '\n')).drop 1
    let line := if mark.dropsTabs then line.dropWhile (· = '\t') else line
    if line = mark.delimiter then ([], rest)
    else
      let (lines, rest) := hereLines mark fuel rest
      (line ++ '\n' :: lines, rest)

/-- The text of a here-document and what follows it. -/
def hereText (mark : HereMark) (text : Octets) : Token × Octets :=
  let (lines, rest) := hereLines mark (text.length + 1) text
  let parts :=
    if mark.isLiteral then lines.map (Part.char · true)
    else quotedText .document lines
  (.hereText mark.stream parts, rest)

/-- The texts of several here-documents and what follows them. -/
def hereTexts : List HereMark → Octets → List Token × Octets
  | [], text => ([], text)
  | mark :: marks, text =>
    let (token, text) := hereText mark text
    let (tokens, text) := hereTexts marks text
    (token :: tokens, text)

/-- The characters that end a word. -/
def endsWord (c : Char) : Bool :=
  isBlank c || c = '\n' || c = ';' || c = '&' || c = '|' || c = '(' || c = ')' || c = '<' || c = '>'

/-- The operator at the start of a text and what follows it. -/
def operator? : Octets → Option (Operator × Octets)
  | ';' :: ';' :: rest => some (.clauseEnd, rest)
  | ';' :: rest => some (.semicolon, rest)
  | '&' :: '&' :: rest => some (.both, rest)
  | '&' :: rest => some (.background, rest)
  | '|' :: '|' :: rest => some (.either, rest)
  | '|' :: rest => some (.pipe, rest)
  | '(' :: rest => some (.openParen, rest)
  | ')' :: rest => some (.closeParen, rest)
  | _ => none

/-- The redirection at the start of a text, with the stream it is about if none is named, and what
    follows it. -/
def redirection? : Octets → Option (RedirectionKind × Nat × Octets)
  | '>' :: '>' :: rest => some (.append, 1, rest)
  | '>' :: '&' :: rest => some (.duplicate, 1, rest)
  | '>' :: '|' :: rest => some (.write, 1, rest)
  | '>' :: rest => some (.write, 1, rest)
  | '<' :: '&' :: rest => some (.duplicate, 0, rest)
  | '<' :: '>' :: rest => some (.update, 0, rest)
  | '<' :: rest => some (.read, 0, rest)
  | _ => none

/-- The number of a stream in front of a redirection, and what follows it. -/
def streamNumber? : Octets → Option (Nat × Octets)
  | c :: rest =>
    if c.isDigit && (rest.head? = some '<' || rest.head? = some '>') then
      some (c.toNat - '0'.toNat, rest)
    else none
  | [] => none

/-- A word behind blanks, and what follows it. -/
def wordBehindBlanks (text : Octets) : Option (Word × Octets) :=
  let text := text.dropWhile isBlank
  plainParts endsWord (text.length + 1) text

/-- The mark of a here-document behind its operator, and what follows it. -/
def hereMark? (stream : Nat) : Octets → Option (HereMark × Octets)
  | '<' :: '<' :: rest =>
    let dropsTabs := rest.head? = some '-'
    (wordBehindBlanks (if dropsTabs then rest.tail else rest)).map fun (word, rest) =>
      (⟨stream, word.bare, word.hasQuotes, dropsTabs⟩, rest)
  | _ => none

/-- The tokens of a text of at most `fuel` characters, given the here-documents whose texts have not
    been reached yet. -/
def tokensFrom : Nat → List HereMark → Octets → List Token
  | 0, _, _ => []
  | _, marks, [] => (hereTexts marks []).1
  | fuel + 1, marks, c :: rest =>
    let text := c :: rest
    let (stream?, behind) :=
      match streamNumber? text with
      | some (n, behind) => (some n, behind)
      | none => (none, text)
    if isBlank c then tokensFrom fuel marks rest
    else if c = '\\' ∧ rest.head? = some '\n' then tokensFrom fuel marks rest.tail
    else if c = '#' then tokensFrom fuel marks (rest.dropWhile (· ≠ '\n'))
    else if c = '\n' then
      let (texts, rest) := hereTexts marks rest
      .operator .newline :: (texts ++ tokensFrom fuel [] rest)
    else
      match operator? text, hereMark? (stream?.getD 0) behind, redirection? behind with
      | some (operator, rest), _, _ => .operator operator :: tokensFrom fuel marks rest
      | none, some (mark, rest), _ =>
        .hereMark mark.stream :: tokensFrom fuel (marks ++ [mark]) rest
      | none, none, some (kind, stream, rest) =>
        .redirection (stream?.getD stream) kind :: tokensFrom fuel marks rest
      | none, none, none =>
        match plainParts endsWord (text.length + 1) text with
        | some (word, rest) => .word word :: tokensFrom fuel marks rest
        | none => [.malformed]

/-- Moves the text of each here-document to the place of its mark, going from the last token to the
    first.  `texts` holds the texts on the way, the one that was met first in front. -/
def placeHereTexts (tokens : List Token) : List Token :=
  (tokens.foldr
    (fun token (texts, placed) =>
      match token with
      | .hereText .. => (texts ++ [token], placed)
      | .hereMark stream =>
        match texts with
        | .hereText _ text :: texts => (texts, .hereText stream text :: placed)
        | _ => (texts, .hereText stream [] :: placed)
      | token => (texts, token :: placed))
    (([], []) : List Token × List Token)).2

/-- **The tokens of a command line.** -/
def tokens (text : Octets) : List Token := placeHereTexts (tokensFrom (text.length + 1) [] text)

end ArenaLisp.Shell
