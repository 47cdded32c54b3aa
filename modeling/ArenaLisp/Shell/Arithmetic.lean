import ArenaLisp.Decimal.Integer
import ArenaLisp.Ordered
import ArenaLisp.Shell.Octets

/-!
# Arithmetic of command lines

Expressions on integers of a machine word, with variables and assignments.  An expression is read
into a tree, which is then evaluated with the variables at hand; the sides that are not asked for
are not evaluated.

## Main definitions

- `Arith`: an expression; `Arith.BinaryOp`: the operators on two numbers.
- `ArithFault`: why an expression has no value.
- `Arith.read`: the expression that a text stands for.
- `Arith.evaluate`: the value of an expression, and the variables after it.
-/

namespace ArenaLisp.Shell

/-- The operators on two numbers that always evaluate both. -/
inductive Arith.BinaryOp where
  | mul | div | mod | add | sub | shiftLeft | shiftRight
  | less | lessEqual | greater | greaterEqual | equal | unequal
  | and | xor | or
  deriving Repr, DecidableEq

/-- The operators on one number. -/
inductive Arith.UnaryOp where
  | negate | keep | complement | not
  deriving Repr, DecidableEq

/-- An expression. -/
inductive Arith where
  | number (n : Int)
  | reading (name : Octets)
  | unary (op : Arith.UnaryOp) (operand : Arith)
  | binary (op : Arith.BinaryOp) (left right : Arith)
  | both (left right : Arith)
  | either (left right : Arith)
  | choice (test yes no : Arith)
  | assign (name : Octets) (op : Option Arith.BinaryOp) (value : Arith)
  deriving Repr, DecidableEq

/-- Why an expression has no value: it is none, it divides by zero, or a variable holds no
    number. -/
inductive ArithFault where
  | malformed
  | divisionByZero
  | illegalNumber (text : Octets)
  deriving Repr, DecidableEq

namespace Arith

/-! ## Numbers -/

/-- The value of a digit. -/
def digitValue (c : Char) : Nat :=
  if c.isDigit then c.toNat - '0'.toNat
  else if 'a' ≤ c ∧ c ≤ 'f' then c.toNat - 'a'.toNat + 10
  else if 'A' ≤ c ∧ c ≤ 'F' then c.toNat - 'A'.toNat + 10
  else 16

/-- The number at the start of a text, in the base that its start tells, and what follows it. -/
def unsigned? (text : Octets) : Option (Nat × Octets) :=
  let inBase (base : Nat) (text : Octets) : Nat × Octets :=
    ((text.takeWhile (digitValue · < base)).foldl (fun n c => n * base + digitValue c) 0,
      text.dropWhile (digitValue · < base))
  match text with
  | '0' :: x :: d :: rest =>
    if (x = 'x' || x = 'X') && decide (digitValue d < 16) then some (inBase 16 (d :: rest))
    else some (inBase 8 text)
  | '0' :: _ => some (inBase 8 text)
  | c :: _ => if c.isDigit then some (inBase 10 text) else none
  | [] => none

/-- A number confined to a machine word: one beyond its end becomes the end. -/
def clamp (n : Int) : Int := max Decimal.wordMin (min Decimal.wordMax n)

/-- The integer that a text stands for, in the base that its start tells; blanks around it do not
    matter. -/
def integer? (text : Octets) : Option Int :=
  let (negative, rest) := Decimal.splitSign (text.dropWhile isSpace)
  match unsigned? rest with
  | some (n, rest) =>
    if rest.all isSpace then some (clamp (Decimal.withSign negative n)) else none
  | none => none

/-! ## Reading -/

/-- A token of an expression. -/
inductive Token where
  | number (n : Int)
  | name (text : Octets)
  | symbol (text : String)
  deriving Repr, DecidableEq

/-- The symbols, longer ones first. -/
def symbols : List String :=
  ["<<=", ">>=", "<<", ">>", "<=", ">=", "==", "!=", "&&", "||", "+=", "-=", "*=", "/=", "%=",
    "&=", "^=", "|=", "+", "-", "*", "/", "%", "<", ">", "=", "!", "~", "&", "^", "|", "?", ":",
    "(", ")"]

/-- The tokens of an expression of at most `fuel` characters. -/
def tokensFrom : Nat → Octets → Option (List Token)
  | 0, _ => none
  | _, [] => some []
  | fuel + 1, c :: rest =>
    if isSpace c then tokensFrom fuel rest
    else if isNameStart c then
      (tokensFrom fuel (rest.dropWhile isNameChar)).map
        (.name (c :: rest.takeWhile isNameChar) :: ·)
    else
      match unsigned? (c :: rest) with
      | some (n, rest) => (tokensFrom fuel rest).map (.number (clamp n) :: ·)
      | none =>
        match symbols.find? fun symbol => symbol.toList.isPrefixOf (c :: rest) with
        | some symbol =>
          (tokensFrom fuel ((c :: rest).drop symbol.length)).map (.symbol symbol :: ·)
        | none => none

/-- The operators on two numbers, by symbol and level; a higher level binds more closely. -/
def binaryOp? : String → Option (Nat × BinaryOp)
  | "*" => some (10, .mul)
  | "/" => some (10, .div)
  | "%" => some (10, .mod)
  | "+" => some (9, .add)
  | "-" => some (9, .sub)
  | "<<" => some (8, .shiftLeft)
  | ">>" => some (8, .shiftRight)
  | "<" => some (7, .less)
  | "<=" => some (7, .lessEqual)
  | ">" => some (7, .greater)
  | ">=" => some (7, .greaterEqual)
  | "==" => some (6, .equal)
  | "!=" => some (6, .unequal)
  | "&" => some (5, .and)
  | "^" => some (4, .xor)
  | "|" => some (3, .or)
  | _ => none

/-- The level and the tree of any operator between two operands. -/
def between? (symbol : String) : Option (Nat × (Arith → Arith → Arith)) :=
  match symbol with
  | "&&" => some (2, .both)
  | "||" => some (1, .either)
  | symbol => (binaryOp? symbol).map fun (level, op) => (level, .binary op)

/-- The operators in front of one operand. -/
def unaryOp? : String → Option UnaryOp
  | "-" => some .negate
  | "+" => some .keep
  | "~" => some .complement
  | "!" => some .not
  | _ => none

/-- The operator that an assignment applies first. -/
def assignmentOp? (symbol : String) : Option (Option BinaryOp) :=
  if symbol = "=" then some none
  else if symbol = "==" ∨ symbol = "<=" ∨ symbol = ">=" ∨ symbol = "!=" then none
  else
    match symbol.toList.reverse with
    | '=' :: op => (binaryOp? (String.ofList op.reverse)).map fun (_, op) => some op
    | _ => none

/-- A reader of a part of an expression. -/
abbrev Reading := List Token → Option (Arith × List Token)

/-- An operand: a number, a variable, an expression in brackets, or an operator in front of an
    operand. -/
def operand (whole self : Reading) : Reading
  | .number n :: rest => some (.number n, rest)
  | .name name :: rest => some (.reading name, rest)
  | .symbol "(" :: rest =>
    match whole rest with
    | some (e, .symbol ")" :: rest) => some (e, rest)
    | _ => none
  | .symbol symbol :: rest =>
    match unaryOp? symbol with
    | some op => (self rest).map fun (e, rest) => (.unary op e, rest)
    | none => none
  | [] => none

/-- The operators from a level on that follow an expression, taken from left to right; at most
    `fuel` of them.  The right side of each is read by `right`, given the level above it. -/
def chain (right : Nat → Reading) (level : Nat) (left : Arith) : Nat → Reading
  | 0, _ => none
  | fuel + 1, tokens =>
    match tokens with
    | .symbol symbol :: rest =>
      match between? symbol with
      | some (found, tree) =>
        if found < level then some (left, tokens)
        else
          match right (found + 1) rest with
          | some (e, rest) => chain right level (tree left e) fuel rest
          | none => none
      | none => some (left, tokens)
    | _ => some (left, tokens)

/-- What of an expression is read. -/
inductive Goal where
  | whole
  | operand
  | level (n : Nat)

/-- Reads a part of an expression, with at most `fuel` levels of parts inside of parts. -/
def readFrom : Nat → Goal → Reading
  | 0, _, _ => none
  | fuel + 1, .operand, tokens => operand (readFrom fuel .whole) (readFrom fuel .operand) tokens
  | fuel + 1, .level n, tokens =>
    match readFrom fuel .operand tokens with
    | some (left, rest) =>
      chain (fun level => readFrom fuel (.level level)) n left (rest.length + 1) rest
    | none => none
  | fuel + 1, .whole, tokens =>
    let choice : Option (Arith × List Token) :=
      match readFrom fuel (.level 1) tokens with
      | some (test, .symbol "?" :: rest) =>
        match readFrom fuel .whole rest with
        | some (yes, .symbol ":" :: rest) =>
          (readFrom fuel .whole rest).map fun (no, rest) => (.choice test yes no, rest)
        | _ => none
      | found => found
    match tokens with
    | .name name :: .symbol symbol :: rest =>
      match assignmentOp? symbol with
      | some op => (readFrom fuel .whole rest).map fun (e, rest) => (.assign name op e, rest)
      | none => choice
    | _ => choice

/-- The expression that a text stands for; an empty one is zero. -/
def read (text : Octets) : Option Arith :=
  match tokensFrom (text.length + 1) text with
  | some [] => some (.number 0)
  | some tokens =>
    match readFrom (4 * tokens.length + 4) .whole tokens with
    | some (e, []) => some e
    | _ => none
  | none => none

/-! ## Values -/

/-- A number brought into a machine word. -/
def wrap (n : Int) : Int := Int.bmod n 18446744073709551616

/-- A truth value as a number. -/
def ofBool (b : Bool) : Int := if b then 1 else 0

/-- The number with the same bits, taken as one that is not negative. -/
def bits (n : Int) : Nat := (n % 18446744073709551616).toNat

/-- The value of an operator on two numbers. -/
def BinaryOp.apply (op : BinaryOp) (a b : Int) : Except ArithFault Int :=
  match op with
  | .mul => .ok (wrap (a * b))
  | .div => if b = 0 then .error .divisionByZero else .ok (wrap (Int.tdiv a b))
  | .mod => if b = 0 then .error .divisionByZero else .ok (wrap (Int.tmod a b))
  | .add => .ok (wrap (a + b))
  | .sub => .ok (wrap (a - b))
  | .shiftLeft => .ok (wrap (a * Nat.pow 2 (b % 64).toNat))
  | .shiftRight => .ok (Int.fdiv a (Nat.pow 2 (b % 64).toNat))
  | .less => .ok (ofBool (decide (a < b)))
  | .lessEqual => .ok (ofBool (decide (a ≤ b)))
  | .greater => .ok (ofBool (decide (b < a)))
  | .greaterEqual => .ok (ofBool (decide (b ≤ a)))
  | .equal => .ok (ofBool (decide (a = b)))
  | .unequal => .ok (ofBool (decide (a ≠ b)))
  | .and => .ok (wrap (Nat.land (bits a) (bits b)))
  | .xor => .ok (wrap (Nat.xor (bits a) (bits b)))
  | .or => .ok (wrap (Nat.lor (bits a) (bits b)))

/-- The value of an operator on one number. -/
def UnaryOp.apply : UnaryOp → Int → Int
  | .negate, n => wrap (-n)
  | .keep, n => n
  | .complement, n => -n - 1
  | .not, n => ofBool (decide (n = 0))

/-- Variables by name. -/
abbrev Variables := Ordered Octets Octets

/-- The number that a variable holds; one that is not set holds zero. -/
def variableValue (vars : Variables) (name : Octets) : Except ArithFault Int :=
  match vars.get? name with
  | none | some [] => .ok 0
  | some text =>
    match integer? text with
    | some n => .ok n
    | none => .error (.illegalNumber text)

/-- The value of an expression and the variables after it. -/
def evaluate (vars : Variables) : Arith → Except ArithFault (Int × Variables)
  | .number n => .ok (n, vars)
  | .reading name => (variableValue vars name).map (·, vars)
  | .unary op e => do
    let (n, vars) ← e.evaluate vars
    return (op.apply n, vars)
  | .binary op left right => do
    let (a, vars) ← left.evaluate vars
    let (b, vars) ← right.evaluate vars
    return (← op.apply a b, vars)
  | .both left right => do
    let (a, vars) ← left.evaluate vars
    if a = 0 then return (0, vars)
    else
      let (b, vars) ← right.evaluate vars
      return (ofBool (decide (b ≠ 0)), vars)
  | .either left right => do
    let (a, vars) ← left.evaluate vars
    if a ≠ 0 then return (1, vars)
    else
      let (b, vars) ← right.evaluate vars
      return (ofBool (decide (b ≠ 0)), vars)
  | .choice test yes no => do
    let (a, vars) ← test.evaluate vars
    if a ≠ 0 then yes.evaluate vars else no.evaluate vars
  | .assign name op e => do
    let (n, vars) ← e.evaluate vars
    let n ← match op with
      | none => .ok n
      | some op => do op.apply (← variableValue vars name) n
    return (n, vars.put name (integerDigits n))

end Arith

end ArenaLisp.Shell
