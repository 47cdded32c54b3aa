import ArenaLisp.Node

/-!
# Values

What a script computes with.  A lambda owns its parameter names and its body; under lexical scoping
it also holds the index of the scope that it was made in.

## Main definitions

- `Value`: the closed set of values, and `Value.Kind`, their kinds.
- `Value.same`: equality, structural and strict in kinds; the scope of a lambda plays no part.
- `Value.text`: a value as it is printed.
- `Value.describe`: a value as it is shown in a diagnostic.
-/

namespace ArenaLisp

/-- A value.  `reference` is a deferred reference to a callable binding, resolved where it is
    called; `error` is an ordinary value that a script makes. -/
inductive Value where
  | unit
  | string (text : String)
  | integer (n : Int)
  | float (x : Float)
  | list (items : List Value)
  | lambda (params : List String) (body : List Node) (scope : Option Nat)
  | reference (name : String)
  | error (message : String)
  deriving Inhabited

/-- The kinds of value. -/
inductive Value.Kind where
  | unit
  | string
  | integer
  | float
  | list
  | lambda
  | reference
  | error
  deriving Repr, DecidableEq

namespace Value

/-- The name of a kind, as scripts see it. -/
def Kind.name : Kind → String
  | .unit => "unit"
  | .string => "string"
  | .integer => "integer"
  | .float => "float"
  | .list => "list"
  | .lambda => "lambda"
  | .reference => "symbol-ref"
  | .error => "error"

/-- The kind of a value. -/
def kind : Value → Kind
  | .unit => .unit
  | .string _ => .string
  | .integer _ => .integer
  | .float _ => .float
  | .list _ => .list
  | .lambda .. => .lambda
  | .reference _ => .reference
  | .error _ => .error

/-- Truth is the integer 1. -/
def yes : Value := .integer 1

/-- Falsehood is the integer 0. -/
def no : Value := .integer 0

/-- A condition as a value. -/
def ofBool (b : Bool) : Value := if b then yes else no

/-- The value of a literal. -/
def ofLiteral : Literal → Value
  | .string text => .string text
  | .integer n => .integer n
  | .float x => .float x

/-! ## Equality -/

mutual

/-- Equality of values: strict in kinds and structural.  Lambdas are equal if their parameters and
    their bodies are, wherever they were made. -/
def same : Value → Value → Bool
  | .unit, .unit => true
  | .string a, .string b => decide (a = b)
  | .integer a, .integer b => decide (a = b)
  | .float a, .float b => Decimal.sameNumber a b
  | .list a, .list b => sameAll a b
  | .lambda params body _, .lambda params' body' _ =>
    decide (params = params') && Node.sameAll body body'
  | .reference a, .reference b => decide (a = b)
  | .error a, .error b => decide (a = b)
  | _, _ => false

/-- Equality of lists of values: equal lengths and equal items. -/
def sameAll : List Value → List Value → Bool
  | [], [] => true
  | a :: as, b :: bs => same a b && sameAll as bs
  | _, _ => false

end

/-- Whether a value is the integer 1, which is what selects the first branch of a conditional. -/
def isYes (v : Value) : Bool := v.same yes

/-! ## Printed text -/

/-- The source text of a lambda. -/
def lambdaText (params : List String) (body : List Node) : String :=
  let parts := ("(" ++ " ".intercalate params ++ ")") :: body.map Node.render
  "(lambda " ++ " ".intercalate parts ++ ")"

mutual

/-- A value as it is printed: strings stand for themselves, lists are joined by commas. -/
def text : Value → String
  | .unit => ""
  | .string text => text
  | .integer n => Decimal.integerText n
  | .float x => Decimal.floatText x
  | .list items => "(" ++ textAll items ++ ")"
  | .lambda params body _ => lambdaText params body
  | .reference name => "@" ++ name
  | .error message => "Error: " ++ message

/-- The texts of several values, joined by commas. -/
def textAll : List Value → String
  | [] => ""
  | [v] => text v
  | v :: rest => text v ++ "," ++ textAll rest

end

/-! ## Descriptions -/

/-- Descriptions between parentheses, separated by commas; a comma also follows a single one. -/
def tuple : List String → String
  | [] => "()"
  | [one] => "(" ++ one ++ ",)"
  | many => "(" ++ ", ".intercalate many ++ ")"

mutual

/-- A value as it is shown in a diagnostic: its kind and what it holds.  The scope of a lambda is
    not shown. -/
def describe : Value → String
  | .unit => "Unit()"
  | .string text => (Literal.string text).describe
  | .integer n => (Literal.integer n).describe
  | .float x => (Literal.float x).describe
  | .list items => "List(items=" ++ tuple (describeAll items) ++ ")"
  | .lambda params body _ =>
    "Lambda(params=" ++ tuple (params.map Text.quoted) ++ ", body=" ++
      tuple (body.map Node.describe) ++ ")"
  | .reference name => "SymbolRef(name=" ++ Text.quoted name ++ ")"
  | .error message => "Error(message=" ++ Text.quoted message ++ ")"

/-- The descriptions of several values. -/
def describeAll : List Value → List String
  | [] => []
  | v :: rest => describe v :: describeAll rest

end

end Value

end ArenaLisp
