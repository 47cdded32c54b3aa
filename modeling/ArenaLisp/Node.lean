import ArenaLisp.Decimal.Shortest
import ArenaLisp.Text.Quoted

/-!
# Nodes

The forms of a script as trees: lists, symbols, and literals that evaluate to themselves.

## Main definitions

- `Literal`, `Node`: the trees.
- `Node.same`: structural equality; floats are compared as numbers.
- `Node.render`: a node as source text.
- `Node.describe`, `Node.outline`: a node as it is shown in one line and in several.
-/

namespace ArenaLisp

/-- A self-evaluating literal. -/
inductive Literal where
  | string (text : String)
  | integer (n : Int)
  | float (x : Float)
  deriving DecidableEq

/-- A form of a script. -/
inductive Node where
  | list (items : List Node)
  | symbol (name : String)
  | literal (value : Literal)
  deriving Inhabited

/-! ## Equality

Equality is structural and strict in kinds: an integer literal never equals a float literal.
Floats are compared as numbers, so the two zeros agree and NaN agrees with nothing. -/

/-- Structural equality of literals. -/
def Literal.same : Literal → Literal → Bool
  | .string a, .string b => decide (a = b)
  | .integer a, .integer b => decide (a = b)
  | .float a, .float b => Decimal.sameNumber a b
  | _, _ => false

mutual

/-- Structural equality of nodes. -/
def Node.same : Node → Node → Bool
  | .list a, .list b => Node.sameAll a b
  | .symbol a, .symbol b => decide (a = b)
  | .literal a, .literal b => a.same b
  | _, _ => false

/-- Structural equality of lists of nodes: equal lengths and equal items. -/
def Node.sameAll : List Node → List Node → Bool
  | [], [] => true
  | a :: as, b :: bs => Node.same a b && Node.sameAll as bs
  | _, _ => false

end

/-! ## Source text -/

/-- The characters of a string literal between its quotes: a backslash stands before each quote
    and each backslash. -/
def Literal.escaped : List Char → List Char
  | [] => []
  | c :: rest => if c = '"' ∨ c = '\\' then '\\' :: c :: escaped rest else c :: escaped rest

/-- The source text of a literal. -/
def Literal.render : Literal → String
  | .string text => String.ofList ('"' :: (Literal.escaped text.toList ++ ['"']))
  | .integer n => Decimal.integerText n
  | .float x => Decimal.floatText x

mutual

/-- The source text of a node: items of a list are separated by single spaces. -/
def Node.render : Node → String
  | .list items => "(" ++ Node.renderAll items ++ ")"
  | .symbol name => name
  | .literal value => value.render

/-- The source text of several nodes, separated by single spaces. -/
def Node.renderAll : List Node → String
  | [] => ""
  | [node] => Node.render node
  | node :: rest => Node.render node ++ " " ++ Node.renderAll rest

end

/-! ## Descriptions -/

/-- How a literal is shown. -/
def Literal.describe : Literal → String
  | .string text => "String(value=" ++ Text.quoted text ++ ")"
  | .integer n => "Integer(value=" ++ Decimal.integerText n ++ ")"
  | .float x => "Float(value=" ++ Decimal.floatText x ++ ")"

mutual

/-- How a node is shown in one line. -/
def Node.describe : Node → String
  | .list items => "ListNode([" ++ Node.describeAll items ++ "])"
  | .symbol name => "SymbolNode(" ++ Text.quoted name ++ ")"
  | .literal value => "ValueNode(" ++ value.describe ++ ")"

/-- How several nodes are shown in one line, separated by commas. -/
def Node.describeAll : List Node → String
  | [] => ""
  | [node] => Node.describe node
  | node :: rest => Node.describe node ++ ", " ++ Node.describeAll rest

end

/-- The white space in front of a line of an outline. -/
def Node.indentation (depth : Nat) : String := String.ofList (List.replicate (4 * depth) ' ')

mutual

/-- How a node is shown with one node a line, indented by its depth. -/
def Node.outline (depth : Nat) : Node → String
  | .list [] => Node.indentation depth ++ "ListNode()"
  | .list (item :: items) =>
    Node.indentation depth ++ "ListNode(nodes=[" ++ Node.outlineAll (depth + 1) (item :: items) ++
      "\n" ++ Node.indentation depth ++ "])"
  | node => Node.indentation depth ++ node.describe

/-- The lines of several nodes of one depth, each node followed by a comma but the last. -/
def Node.outlineAll (depth : Nat) : List Node → String
  | [] => ""
  | [node] => "\n" ++ Node.outline depth node
  | node :: rest => "\n" ++ Node.outline depth node ++ "," ++ Node.outlineAll depth rest

end

end ArenaLisp
