import ArenaLisp.Diagnostic.Colour

/-!
# Diagnostics

A diagnostic is an error of the language put into words: its kind, and a message in which the
offending snippets are told apart from the wording around them, so that they can be emphasised.

## Main definitions

- `Diagnostic.Kind`: the taxonomy of errors, and `Diagnostic.Kind.isA`, its order.
- `Diagnostic`: the parts of a message, read as `Diagnostic.message` or `Diagnostic.painted`.
- `Diagnostic.fill`: the parts of a message template with snippets put into its slots.
-/

namespace ArenaLisp

/-- The kinds of error of the language. -/
inductive Diagnostic.Kind where
  | generic
  | lexical
  | unterminatedString
  | parse
  | eval
  | binding
  | argumentCount
  deriving Repr, DecidableEq

/-- A part of a message: wording, or a snippet of what the message is about. -/
inductive Diagnostic.Part where
  | plain (text : String)
  | shown (text : String)
  deriving Repr, DecidableEq

/-- An error in words.  `surplus` holds snippets that came with the error and have no place in its
    wording; `internal` marks a failure of the interpreter itself. -/
structure Diagnostic where
  kind : Diagnostic.Kind
  parts : List Diagnostic.Part
  surplus : List String := []
  internal : Bool := false
  deriving Repr, DecidableEq

namespace Diagnostic

/-- The label under which a kind is reported. -/
def Kind.label : Kind → String
  | .generic => "GenericException"
  | .lexical => "LexError"
  | .unterminatedString => "UnterminatedString"
  | .parse => "ParseError"
  | .eval => "EvalError"
  | .binding => "BindingError"
  | .argumentCount => "ArgumentCountError"

/-- The kind that a kind is a special case of.  Every kind is a special case of `generic`. -/
def Kind.parent : Kind → Kind
  | .unterminatedString => .lexical
  | .argumentCount => .binding
  | _ => .generic

/-- Whether a kind is another kind or a special case of it. -/
def Kind.isA (kind other : Kind) : Bool :=
  decide (kind = other) || decide (kind.parent = other) || decide (other = .generic)

/-- The words of a part. -/
def Part.text : Part → String
  | .plain text => text
  | .shown text => text

/-- The message without emphasis. -/
def message (d : Diagnostic) : String := String.join (d.parts.map Part.text)

/-- The words of a part, a snippet in bold type. -/
def Part.painted (painter : Painter) : Part → String
  | .plain text => text
  | .shown text => painter.paint none text

/-- The message with its snippets in bold type. -/
def painted (painter : Painter) (d : Diagnostic) : String :=
  String.join (d.parts.map (Part.painted painter))

/-- The snippets of a part. -/
def Part.snippet? : Part → Option String
  | .plain _ => none
  | .shown text => some text

/-- The snippets that came with the error, in order. -/
def snippets (d : Diagnostic) : List String := d.parts.filterMap Part.snippet? ++ d.surplus

/-! ## Templates

A template is a text in which a pair of braces is a slot for a snippet and a doubled brace stands
for itself. -/

/-- Why a template cannot be filled: the slot with this number finds no snippet, a brace of this
    kind stands alone, a slot is not closed, a slot is opened inside of another one, or a slot asks
    for a snippet by a name. -/
inductive TemplateFault where
  | noSnippet (slot : Nat)
  | singleBrace (brace : Char)
  | unclosedSlot
  | nestedSlot
  | namedSlot (name : String)
  deriving Repr, DecidableEq

/-- What is wrong with an opening brace, given what follows it, which is neither a closing brace nor
    another opening one. -/
def slotFault (rest : List Char) : TemplateFault :=
  let isPlain (c : Char) : Bool := c ≠ '\x7b' && c ≠ '\x7d'
  match rest, rest.dropWhile isPlain with
  | [], _ => .singleBrace '\x7b'
  | _, [] => .unclosedSlot
  | _, '\x7b' :: _ => .nestedSlot
  | _, _ => .namedSlot (String.ofList (rest.takeWhile isPlain))

/-- The parts of a template from a slot number on, with the snippets not yet used, and the
    snippets that remain.  `word` holds the wording collected so far, the last character first. -/
def fillFrom (slot : Nat) (word : List Char) (snippets : List String) :
    List Char → Except TemplateFault (List Part × List String)
  | [] => .ok ([.plain (String.ofList word.reverse)], snippets)
  | '\x7b' :: '\x7b' :: rest => fillFrom slot ('\x7b' :: word) snippets rest
  | '\x7d' :: '\x7d' :: rest => fillFrom slot ('\x7d' :: word) snippets rest
  | '\x7b' :: '\x7d' :: rest =>
    match snippets with
    | [] => .error (.noSnippet slot)
    | snippet :: snippets =>
      (fillFrom (slot + 1) [] snippets rest).map fun (parts, surplus) =>
        (.plain (String.ofList word.reverse) :: .shown snippet :: parts, surplus)
  | c :: rest =>
    if c = '\x7b' then .error (slotFault rest)
    else if c = '\x7d' then .error (.singleBrace c)
    else fillFrom slot (c :: word) snippets rest

/-- The diagnostic with a template for its wording and snippets for its slots. -/
def fill (kind : Kind) (internal : Bool) (template : String) (snippets : List String) :
    Except TemplateFault Diagnostic :=
  (fillFrom 0 [] snippets template.toList).map fun (parts, surplus) =>
    { kind, parts, surplus, internal }

end Diagnostic

end ArenaLisp
