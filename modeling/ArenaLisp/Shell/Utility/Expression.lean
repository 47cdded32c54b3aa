import ArenaLisp.Shell.Effect
import ArenaLisp.Shell.Regex

/-!
# Expressions of single words

`expr` evaluates an expression that is given word by word: operations on integers, comparisons,
choices between values, and operations on texts.

## Main definitions

- `ExprFault`: why an expression has no value.
- `exprLevel`: the value of an expression of some level.
- `Request.expr`: an expression evaluated and written.
-/

namespace ArenaLisp.Shell

/-- Why an expression has no value. -/
inductive ExprFault where
  | missingArgument (word : Octets)
  | unexpectedArgument (word : Octets)
  | notInteger
  | divisionByZero
  | missingOperand
  deriving Repr, DecidableEq

/-- The wording of a fault. -/
def ExprFault.message : ExprFault → Octets
  | .missingArgument word => octets "syntax error: missing argument after " ++ inQuotes word
  | .unexpectedArgument word => octets "syntax error: unexpected argument " ++ inQuotes word
  | .notInteger => octets "non-integer argument"
  | .divisionByZero => octets "division by zero"
  | .missingOperand => octets "missing operand"

/-- The integer that a text stands for. -/
def exprInteger? (text : Octets) : Option Int :=
  let (negative, found) := match text with
    | '-' :: rest => (true, rest)
    | rest => (false, rest)
  if Decimal.isDigits found then some (Decimal.withSign negative (Decimal.digitsValue found))
  else none

/-- Whether a value counts as none: an empty text, or zero. -/
def isNull (value : Octets) : Bool := value.isEmpty || exprInteger? value = some 0

/-- What a pattern finds at the start of a text: its first group, or how much it takes. -/
def matchAtStart (text pattern : Octets) : Octets :=
  match Regex.read .basic pattern with
  | none => ['0']
  | some r =>
    match r.longest? false { rest := text }, (octets "\\(").isPrefixOf pattern ||
        (Text.pieces ['\\', '('] pattern).length ≠ 1 with
    | some stop, true => Regex.groupText { rest := text } stop 1
    | some stop, false => digits stop.taken
    | none, true => []
    | none, false => ['0']

/-- An operation on two integers. -/
def onIntegers (a b : Octets) (f : Int → Int → Except ExprFault Int) : Except ExprFault Octets :=
  match exprInteger? a, exprInteger? b with
  | some x, some y => (f x y).map integerDigits
  | _, _ => .error .notInteger

/-- A comparison: of integers if both values are, of texts otherwise. -/
def compareValues (a b : Octets) (f : Ordering → Bool) : Octets :=
  let order : Ordering :=
    match exprInteger? a, exprInteger? b with
    | some x, some y => compare x y
    | _, _ => if a = b then .eq else if octetsLe a b then .lt else .gt
  if f order then ['1'] else ['0']

/-- The value of an operator between two values. -/
def exprOperation (operator : String) (a b : Octets) : Except ExprFault Octets :=
  match operator with
  | "|" => .ok (if !isNull a then a else if !isNull b then b else ['0'])
  | "&" => .ok (if isNull a || isNull b then ['0'] else a)
  | "<" => .ok (compareValues a b (· = .lt))
  | "<=" => .ok (compareValues a b (· ≠ .gt))
  | "=" | "==" => .ok (compareValues a b (· = .eq))
  | "!=" => .ok (compareValues a b (· ≠ .eq))
  | ">=" => .ok (compareValues a b (· ≠ .lt))
  | ">" => .ok (compareValues a b (· = .gt))
  | "+" => onIntegers a b fun x y => .ok (x + y)
  | "-" => onIntegers a b fun x y => .ok (x - y)
  | "*" => onIntegers a b fun x y => .ok (x * y)
  | "/" => onIntegers a b fun x y =>
      if y = 0 then .error .divisionByZero else .ok (Int.tdiv x y)
  | "%" => onIntegers a b fun x y =>
      if y = 0 then .error .divisionByZero else .ok (Int.tmod x y)
  | _ => .ok (matchAtStart a b)

/-- The operators of each level, from those that bind least. -/
def exprOperators : Nat → List String
  | 0 => ["|"]
  | 1 => ["&"]
  | 2 => ["<", "<=", "=", "==", "!=", ">=", ">"]
  | 3 => ["+", "-"]
  | 4 => ["*", "/", "%"]
  | _ => [":"]

/-- A reader of a part of an expression: its value and the words that follow it. -/
abbrev ExprReading := List Octets → Except ExprFault (Octets × List Octets)

/-- A single value, or an operation on texts, given how to read a whole expression and another
    single value. -/
def exprOperand (whole single : ExprReading) : ExprReading
  | [] => .error .missingOperand
  | ['('] :: rest => do
    let (value, rest) ← whole rest
    match rest with
    | [')'] :: rest => return (value, rest)
    | word :: _ => .error (.unexpectedArgument word)
    | [] => .error (.missingArgument value)
  | word :: rest =>
    match String.ofList word, rest with
    | "length", _ :: _ => do
      let (value, rest) ← single rest
      return (digits value.length, rest)
    | "match", _ :: _ => do
      let (text, rest) ← single rest
      let (pattern, rest) ← single rest
      return (matchAtStart text pattern, rest)
    | "substr", _ :: _ => do
      let (text, rest) ← single rest
      let (start, rest) ← single rest
      let (length, rest) ← single rest
      match exprInteger? start, exprInteger? length with
      | some start, some length =>
        if start ≤ 0 ∨ length ≤ 0 then return ([], rest)
        else return ((text.drop (start.toNat - 1)).take length.toNat, rest)
      | _, _ => return ([], rest)
    | "index", _ :: _ => do
      let (text, rest) ← single rest
      let (chars, rest) ← single rest
      match text.findIdx? chars.contains with
      | some place => return (digits (place + 1), rest)
      | none => return (['0'], rest)
    | "+", next :: rest => return (next, rest)
    | _, _ => return (word, rest)

/-- The operators of a level that follow a value, taken from left to right; at most `fuel`. -/
def exprChain (operators : List String) (right : ExprReading) (left : Octets) :
    Nat → ExprReading
  | 0, words => .ok (left, words)
  | fuel + 1, words =>
    match words with
    | word :: rest =>
      if operators.contains (String.ofList word) then
        if rest.isEmpty then .error (.missingArgument word)
        else do
          let (value, rest) ← right rest
          exprChain operators right (← exprOperation (String.ofList word) left value) fuel rest
      else .ok (left, words)
    | [] => .ok (left, [])

/-- The value of an expression of some level; `fuel` bounds the levels inside of levels. -/
def exprLevel : Nat → Nat → ExprReading
  | 0, _, _ => .error .missingOperand
  | fuel + 1, level, words =>
    if 6 ≤ level then exprOperand (exprLevel fuel 0) (exprLevel fuel 6) words
    else do
      let (value, rest) ← exprLevel fuel (level + 1) words
      exprChain (exprOperators level) (exprLevel fuel (level + 1)) value (rest.length + 1) rest

/-- An expression evaluated and written; the status tells whether its value counts as one. -/
def Request.expr (r : Request) : Effect :=
  match exprLevel (8 * r.args.length + 8) 0 r.args with
  | .ok (value, []) =>
    { Effect.output (value ++ ['\n']) with status := if isNull value then 1 else 0 }
  | .ok (_, word :: _) => .failure 2 (r.naming (ExprFault.unexpectedArgument word).message)
  | .error .missingOperand =>
    .failure 2 (r.naming (octets "missing operand\nTry 'expr --help' for more information."))
  | .error fault => .failure 2 (r.naming fault.message)

end ArenaLisp.Shell
