import ArenaLisp.Shell.Effect

/-!
# Conditions on texts, numbers and files

`test` evaluates a condition that is given word by word.  Conditions are joined by `-a` and `-o`,
negated by an exclamation mark and grouped by brackets.

## Main definitions

- `Request.unary?`, `binary?`: the conditions on one operand and on two.
- `Request.condition`: the value of a condition.
- `Request.test`: the status that tells it.
-/

namespace ArenaLisp.Shell

/-- The number that an operand of a comparison stands for. -/
def comparand (text : Octets) : Except Octets Int :=
  let (negative, rest) := Decimal.splitSign (text.dropWhile isSpace)
  let found := rest.takeWhile Char.isDigit
  if !found.isEmpty && (rest.drop found.length).all isSpace then
    .ok (Decimal.withSign negative (Decimal.digitsValue found))
  else .error (octets "Illegal number: " ++ text)

/-- A condition on two operands, if the word between them is an operator. -/
def binary? (a operator b : Octets) : Option (Except Octets Bool) :=
  let numbers (f : Int → Int → Bool) : Option (Except Octets Bool) :=
    some do return f (← comparand a) (← comparand b)
  match String.ofList operator with
  | "=" => some (.ok (a = b))
  | "!=" => some (.ok (a ≠ b))
  | "<" => some (.ok (a ≠ b && octetsLe a b))
  | ">" => some (.ok (a ≠ b && octetsLe b a))
  | "-eq" => numbers fun x y => x = y
  | "-ne" => numbers fun x y => x ≠ y
  | "-lt" => numbers fun x y => x < y
  | "-le" => numbers fun x y => x ≤ y
  | "-gt" => numbers fun x y => y < x
  | "-ge" => numbers fun x y => y ≤ x
  | _ => none

namespace Request

/-- A condition on one operand, if the word in front of it is an operator. -/
def unary? (r : Request) (operator operand : Octets) : Option Bool :=
  let path := r.path operand
  let entry := r.files.entry path
  let isDevice : Bool :=
    match r.files.resolve path with
    | .ok .device => true
    | _ => false
  match String.ofList operator with
  | "-n" => some !operand.isEmpty
  | "-z" => some operand.isEmpty
  | "-e" | "-r" | "-w" => some (r.files.contains path)
  | "-x" | "-d" => some (r.files.isDirectory path)
  | "-f" => some (r.files.contains path && !r.files.isDirectory path && !isDevice)
  | "-c" => some isDevice
  | "-s" =>
    match entry with
    | .ok (.file bytes) => some !bytes.isEmpty
    | .ok .directory => some true
    | .error _ => some false
  | "-h" | "-L" | "-b" | "-p" | "-S" | "-t" | "-u" | "-g" | "-k" => some false
  | _ => none

/-- Reads conditions off the front of some words: those joined by `-o` at level 2, those joined by
    `-a` at level 1, single ones at level 0.  `fuel` bounds the steps. -/
def conditionFrom (r : Request) : Nat → Nat → List Octets → Except Octets (Bool × List Octets)
  | 0, _, _ => .error (octets "too many conditions")
  | fuel + 1, level + 1, words => do
    let (first, rest) ← r.conditionFrom fuel level words
    let joint : Octets := if level = 0 then ['-', 'a'] else ['-', 'o']
    match rest with
    | word :: rest =>
      if word = joint then
        let (second, rest) ← r.conditionFrom fuel (level + 1) rest
        return (if level = 0 then first && second else first || second, rest)
      else return (first, word :: rest)
    | [] => return (first, [])
  | fuel + 1, 0, words =>
    match words with
    | [] => .ok (false, [])
    | a :: rest =>
      let single : Except Octets (Bool × List Octets) :=
        if a = ['!'] ∧ rest ≠ [] then do
          let (value, rest) ← r.conditionFrom fuel 0 rest
          return (!value, rest)
        else if a = ['('] ∧ rest ≠ [] then do
          let (value, rest) ← r.conditionFrom fuel 2 rest
          match rest with
          | [')'] :: rest => return (value, rest)
          | _ => .error (octets "closing paren expected")
        else
          match rest with
          | operand :: behind =>
            match r.unary? a operand with
            | some value => .ok (value, behind)
            | none => .ok (!a.isEmpty, rest)
          | [] => .ok (!a.isEmpty, [])
      match rest with
      | operator :: b :: behind =>
        match binary? a operator b with
        | some value => value.map fun value => (value, behind)
        | none => single
      | _ => single

/-- The value of a condition; no words at all are a condition that does not hold. -/
def condition (r : Request) (words : List Octets) : Except Octets Bool :=
  let general : Except Octets Bool := do
    let (value, rest) ← r.conditionFrom (4 * words.length + 4) 2 words
    if rest.isEmpty then return value
    else
      let last := words.getD (words.length - rest.length - 1) []
      .error (last ++ octets ": unexpected operator")
  match words with
  | [] => .ok false
  | [a] => .ok !a.isEmpty
  | [['!'], a] => .ok a.isEmpty
  | _ => general

/-- A status that tells whether a condition holds. -/
def test (r : Request) : Effect :=
  let fails (message : Octets) : Effect := .failure 2 (r.shellTitle ++ r.naming message)
  let evaluate (words : List Octets) : Effect :=
    match r.condition words with
    | .ok value => { status := if value then 0 else 1 }
    | .error message => fails message
  if r.name = ['['] then
    if r.args.getLast? = some [']'] then evaluate r.args.dropLast else fails (octets "missing ]")
  else evaluate r.args

end Request

end ArenaLisp.Shell
