import ArenaLisp.Shell.Octets

/-!
# Words of a command line

A word as it is written: characters, quoted or not, and the places where a parameter, the output of
a command or the value of an expression goes.  What goes there is only found out when the command
runs, so commands, expressions and operands are kept as they are written.

## Main definitions

- `Part`, `Word`: a word as it is written.
- `Action`: what is done with the value of a parameter.
- `enclosed`: the text up to the bracket that closes one already opened.
- `plainParts`, `quotedParts`: the parts of a text outside and inside of double quotes.
-/

namespace ArenaLisp.Shell

/-- What is done with the value of a parameter.  Where a condition asks whether the parameter is
    set, `emptyToo` makes it treat an empty value as none; operands are kept as they are written. -/
inductive Action where
  | value
  | length
  | orElse (emptyToo : Bool) (operand : Octets)
  | assign (emptyToo : Bool) (operand : Octets)
  | require (emptyToo : Bool) (operand : Octets)
  | instead (emptyToo : Bool) (operand : Octets)
  | trim (atEnd longest : Bool) (pattern : Octets)
  deriving Repr, DecidableEq

/-- A part of a word.  `quotes` marks the place of an opening quote: a word that has one is there
    even if it turns out empty. -/
inductive Part where
  | char (c : Char) (isQuoted : Bool)
  | quotes
  | parameter (name : Octets) (action : Action) (isQuoted : Bool)
  | command (source : Octets) (isQuoted : Bool)
  | arithmetic (source : Octets) (isQuoted : Bool)
  | malformed
  deriving Repr, DecidableEq

/-- A word as it is written. -/
abbrev Word := List Part

/-- The text of a word without quotes and replacements. -/
def Word.literal? : Word → Option Octets
  | [] => some []
  | .char c false :: rest => (Word.literal? rest).map (c :: ·)
  | _ :: _ => none

/-- The characters of a word, with its quotes removed and nothing replaced. -/
def Word.bare (word : Word) : Octets :=
  word.filterMap fun
    | .char c _ => some c
    | _ => none

/-- Whether some part of a word is quoted. -/
def Word.hasQuotes (word : Word) : Bool :=
  word.any fun
    | .char _ isQuoted => isQuoted
    | .quotes => true
    | _ => false

/-! ## Brackets -/

/-- What a text can be inside of. -/
inductive Bracket where
  | paren
  | brace (isQuoted : Bool)
  | double
  | single
  | back
  deriving Repr, DecidableEq

namespace Bracket

/-- The character that ends a bracket. -/
def closing : Bracket → Char
  | .paren => ')'
  | .brace _ => '\x7d'
  | .double => '"'
  | .single => '\''
  | .back => '\x60'

/-- The bracket that a character opens. -/
def opened? (inside : Bracket) (c : Char) : Option Bracket :=
  match inside with
  | .single | .back => none
  | .double => if c = '\x60' then some .back else none
  | .brace true => if c = '\x60' then some .back else if c = '"' then some .double else none
  | _ =>
    if c = '\'' then some .single
    else if c = '"' then some .double
    else if c = '\x60' then some .back
    else if c = '(' then some .paren
    else none

/-- The bracket that a dollar sign and a character open. -/
def openedByDollar? (inside : Bracket) (c : Char) : Option Bracket :=
  match inside with
  | .single | .back => none
  | _ =>
    if c = '(' then some .paren
    else if c = '\x7b' then
      some (.brace (inside = .double || inside = .brace true))
    else none

end Bracket

/-- A text in front of the text that a reader found. -/
def inFront (taken : Octets) (found : Option (Octets × Octets)) : Option (Octets × Octets) :=
  found.map fun (text, rest) => (taken ++ text, rest)

/-- The text up to the end of the innermost of several brackets that are open, and what follows the
    outermost one. -/
def enclosed : List Bracket → Octets → Option (Octets × Octets)
  | [], _ => none
  | _, [] => none
  | inside :: outer, c :: rest =>
    if c = inside.closing then
      if outer.isEmpty then some ([], rest) else inFront [c] (enclosed outer rest)
    else
      match rest with
      | [] => none
      | d :: after =>
        if c = '\\' ∧ inside ≠ .single then inFront [c, d] (enclosed (inside :: outer) after)
        else
          match (if c = '$' then inside.openedByDollar? d else none), inside.opened? c with
          | some bracket, _ => inFront [c, d] (enclosed (bracket :: inside :: outer) after)
          | none, some bracket => inFront [c] (enclosed (bracket :: inside :: outer) (d :: after))
          | none, none => inFront [c] (enclosed (inside :: outer) (d :: after))

/-- The command between two backquotes, of which the second is still to come.  A backslash in it
    protects a dollar sign, a backquote or another backslash. -/
def backquoted (isQuoted : Bool) : Octets → Option (Octets × Octets)
  | [] => none
  | '\x60' :: rest => some ([], rest)
  | '\\' :: c :: rest =>
    let kept := if c = '$' ∨ c = '\x60' ∨ c = '\\' ∨ (isQuoted ∧ c = '"') then [c] else ['\\', c]
    inFront kept (backquoted isQuoted rest)
  | c :: rest => inFront [c] (backquoted isQuoted rest)

/-! ## Parameters -/

/-- The parameters that are named by a single character. -/
def isSpecial (c : Char) : Bool :=
  c = '@' || c = '*' || c = '#' || c = '?' || c = '-' || c = '$' || c = '!'

/-- The name of a parameter at the start of a text between braces, and what follows it. -/
def parameterName? : Octets → Option (Octets × Octets)
  | [] => none
  | c :: rest =>
    if isNameStart c then some (c :: rest.takeWhile isNameChar, rest.dropWhile isNameChar)
    else if c.isDigit then some (c :: rest.takeWhile Char.isDigit, rest.dropWhile Char.isDigit)
    else if isSpecial c then some ([c], rest)
    else none

/-- The action behind the name of a parameter. -/
def action? : Octets → Option Action
  | [] => some .value
  | '%' :: '%' :: pattern => some (.trim true true pattern)
  | '%' :: pattern => some (.trim true false pattern)
  | '#' :: '#' :: pattern => some (.trim false true pattern)
  | '#' :: pattern => some (.trim false false pattern)
  | ':' :: '-' :: operand => some (.orElse true operand)
  | '-' :: operand => some (.orElse false operand)
  | ':' :: '=' :: operand => some (.assign true operand)
  | '=' :: operand => some (.assign false operand)
  | ':' :: '?' :: operand => some (.require true operand)
  | '?' :: operand => some (.require false operand)
  | ':' :: '+' :: operand => some (.instead true operand)
  | '+' :: operand => some (.instead false operand)
  | _ => none

/-- The part that a text between braces stands for. -/
def braced (isQuoted : Bool) (text : Octets) : Part :=
  let plain : Part :=
    match parameterName? text with
    | none => .malformed
    | some (name, rest) =>
      match action? rest with
      | some action => .parameter name action isQuoted
      | none => .malformed
  match text with
  | '#' :: rest =>
    match parameterName? rest with
    | some (name, []) => .parameter name .length isQuoted
    | _ => plain
  | _ => plain

/-- The part that follows a dollar sign, and what follows it.  If nothing that can be replaced
    follows, the sign stands for itself; a bracket that is never closed is no part at all. -/
def dollar (isQuoted : Bool) : Octets → Option (Part × Octets)
  | [] => some (.char '$' isQuoted, [])
  | c :: rest =>
    if c = '(' then
      (enclosed [.paren] rest).map fun (source, rest) =>
        match source.head?, source.getLast? with
        | some '(', some ')' => (.arithmetic source.tail.dropLast isQuoted, rest)
        | _, _ => (.command source isQuoted, rest)
    else if c = '\x7b' then
      (enclosed [.brace isQuoted] rest).map fun (text, rest) => (braced isQuoted text, rest)
    else if isNameStart c then
      some (.parameter (c :: rest.takeWhile isNameChar) .value isQuoted,
        rest.dropWhile isNameChar)
    else if c.isDigit || isSpecial c then some (.parameter [c] .value isQuoted, rest)
    else some (.char '$' isQuoted, c :: rest)

/-! ## Parts -/

/-- Where a text stands in which replacements are made and nothing is cut: between double quotes, in
    a here-document, or in an operand between double quotes. -/
inductive Quoting where
  | double
  | document
  | operand
  deriving Repr, DecidableEq

/-- The characters that a backslash protects; it stands for itself in front of any other. -/
def Quoting.protects (quoting : Quoting) (c : Char) : Bool :=
  c = '$' || c = '\x60' || c = '\\' ||
    match quoting with
    | .double => c = '"'
    | .document => false
    | .operand => c = '"' || c = '\x7d'

/-- The parts of a text inside of quotes.  Double quotes end at the next quote, all other texts end
    where they end.  `fuel` bounds the number of characters. -/
def quotedParts (quoting : Quoting) : Nat → Octets → Option (Word × Octets)
  | 0, _ => none
  | _, [] => if quoting = .double then none else some ([], [])
  | fuel + 1, c :: rest =>
    let goOn (parts : Word) (rest : Octets) : Option (Word × Octets) :=
      (quotedParts quoting fuel rest).map fun (tail, rest) => (parts ++ tail, rest)
    if c = '"' ∧ quoting = .double then some ([], rest)
    else if c = '"' ∧ quoting = .operand then goOn [] rest
    else if c = '\\' then
      match rest with
      | [] => goOn [.char c true] []
      | d :: after =>
        if d = '\n' then goOn [] after
        else if quoting.protects d then goOn [.char d true] after
        else goOn [.char c true, .char d true] after
    else if c = '$' then
      match dollar true rest with
      | some (part, rest) => goOn [part] rest
      | none => none
    else if c = '\x60' then
      match backquoted (quoting ≠ .document) rest with
      | some (source, rest) => goOn [.command source true] rest
      | none => none
    else goOn [.char c true] rest

/-- The parts of a text in double quotes.  All arguments at once make no word if there are none, so
    that their quotes leave no mark. -/
def markQuotes (parts : Word) : Word :=
  if parts = [.parameter ['@'] .value true] then parts else .quotes :: parts

/-- The parts of a text outside of quotes, up to a character that ends it.  `fuel` bounds the number
    of characters. -/
def plainParts (ends : Char → Bool) : Nat → Octets → Option (Word × Octets)
  | 0, _ => none
  | _, [] => some ([], [])
  | fuel + 1, c :: rest =>
    let goOn (parts : Word) (rest : Octets) : Option (Word × Octets) :=
      (plainParts ends fuel rest).map fun (tail, rest) => (parts ++ tail, rest)
    if ends c then some ([], c :: rest)
    else if c = '\\' then
      match rest with
      | [] => goOn [.char c true] []
      | '\n' :: after => goOn [] after
      | d :: after => goOn [.char d true] after
    else if c = '\'' then
      match rest.dropWhile (· ≠ '\'') with
      | [] => none
      | _ :: after =>
        goOn (.quotes :: (rest.takeWhile (· ≠ '\'')).map (Part.char · true)) after
    else if c = '"' then
      match quotedParts .double (rest.length + 1) rest with
      | some (parts, rest) => goOn (markQuotes parts) rest
      | none => none
    else if c = '$' then
      match dollar false rest with
      | some (part, rest) => goOn [part] rest
      | none => none
    else if c = '\x60' then
      match backquoted false rest with
      | some (source, rest) => goOn [.command source false] rest
      | none => none
    else goOn [.char c false] rest

/-- The parts of a whole text inside of quotes. -/
def quotedText (quoting : Quoting) (text : Octets) : Word :=
  match quotedParts quoting (text.length + 1) text with
  | some (parts, _) => parts
  | none => [.malformed]

/-- The parts of a whole text outside of quotes. -/
def plainText (text : Octets) : Word :=
  match plainParts (fun _ => false) (text.length + 1) text with
  | some (parts, _) => parts
  | none => [.malformed]

end ArenaLisp.Shell
