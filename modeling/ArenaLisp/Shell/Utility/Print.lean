import ArenaLisp.Decimal.Fixed
import ArenaLisp.Decimal.Shortest
import ArenaLisp.Shell.Effect

/-!
# Printing

`echo` writes its arguments, `printf` writes a format with its arguments put in.  Both replace
escapes; a format replaces those of its own text, and `%b` those of an argument.

## Main definitions

- `unescape`: a text with its escapes replaced.
- `echo`: arguments between spaces.
- `Directive`: a place for an argument in a format, with its width and precision.
- `Request.printf`: a format with arguments.
-/

namespace ArenaLisp.Shell

/-! ## Escapes -/

/-- The character that a letter behind a backslash stands for. -/
def escapeLetter? : Char → Option Char
  | 'a' => some '\x07'
  | 'b' => some '\x08'
  | 'e' => some '\x1b'
  | 'f' => some '\x0c'
  | 'n' => some '\n'
  | 'r' => some '\r'
  | 't' => some '\t'
  | 'v' => some '\x0b'
  | '\\' => some '\\'
  | _ => none

/-- Whether a character is an octal digit. -/
def isOctal (c : Char) : Bool := '0' ≤ c && c ≤ '7'

/-- The byte that up to three octal digits stand for, and what follows them. -/
def octalByte (text : Octets) : Char × Octets :=
  let taken := (text.take 3).takeWhile isOctal
  let value := taken.foldl (fun n c => n * 8 + (c.toNat - '0'.toNat)) 0
  (Char.ofNat (value % 256), text.drop taken.length)

/-- A text with its escapes replaced, and whether one of them ends all output.  In an argument,
    digits of a byte may follow a zero; `fuel` bounds the number of characters. -/
def unescape (isArgument : Bool) : Nat → Octets → Octets × Bool
  | 0, _ => ([], false)
  | _, [] => ([], false)
  | fuel + 1, '\\' :: c :: rest =>
    let goOn (here rest : Octets) : Octets × Bool :=
      let (tail, stopped) := unescape isArgument fuel rest
      (here ++ tail, stopped)
    if isArgument && c = 'c' then ([], true)
    else if isOctal c then
      let (byte, rest) := octalByte (if isArgument && c = '0' then rest else c :: rest)
      goOn [byte] rest
    else
      match escapeLetter? c with
      | some found => goOn [found] rest
      | none => goOn ['\\', c] rest
  | fuel + 1, c :: rest =>
    let (tail, stopped) := unescape isArgument fuel rest
    (c :: tail, stopped)

/-- The arguments between spaces with their escapes replaced, and a line feed unless the first
    argument refuses it. -/
def echo (args : List Octets) : Octets :=
  let (isQuiet, args) := match args with
    | ['-', 'n'] :: rest => (true, rest)
    | args => (false, args)
  let text := List.intercalate [' '] args
  let (text, stopped) := unescape true text.length text
  if isQuiet || stopped then text else text ++ ['\n']

/-! ## Formats -/

/-- A place for an argument in a format: flags, least width, precision and the letter that tells how
    it is written. -/
structure Directive where
  flags : Octets := []
  width : Nat := 0
  precision : Option Nat := none
  letter : Char
  deriving Repr

namespace Directive

/-- Whether a flag is set. -/
def has (d : Directive) (flag : Char) : Bool := d.flags.contains flag

/-- A text filled up with spaces to the width. -/
def pad (d : Directive) (text : Octets) : Octets :=
  if d.has '-' then text ++ List.replicate (d.width - text.length) ' ' else padLeft d.width text

/-- A number filled up to the width: with zeros between the sign and the digits if a flag says
    so. -/
def padNumber (d : Directive) (zeros : Bool) (sign body : Octets) : Octets :=
  if zeros && d.has '0' && !d.has '-' then
    sign ++ List.replicate (d.width - sign.length - body.length) '0' ++ body
  else d.pad (sign ++ body)

/-- The sign of a number that has one. -/
def sign (d : Directive) (negative : Bool) : Octets :=
  if negative then ['-'] else if d.has '+' then ['+'] else if d.has ' ' then [' '] else []

/-- The digits of a number in the base of a letter. -/
def digitsIn (d : Directive) (n : Nat) : Octets :=
  let found :=
    match d.letter with
    | 'o' => Nat.toDigits 8 n
    | 'x' => Nat.toDigits 16 n
    | 'X' => (Nat.toDigits 16 n).map Char.toUpper
    | _ => Nat.toDigits 10 n
  let found := if n = 0 && d.precision = some 0 then [] else found
  List.replicate (d.precision.getD 1 - found.length) '0' ++ found

/-- An integer as a directive writes it. -/
def integer (d : Directive) (n : Int) : Octets :=
  let isSigned := d.letter = 'd' || d.letter = 'i'
  if isSigned then
    d.padNumber d.precision.isNone (d.sign (decide (n < 0))) (d.digitsIn n.natAbs)
  else
    let n := Arith.bits n
    let body := d.digitsIn n
    let mark :=
      if !d.has '#' || n = 0 then []
      else if d.letter = 'x' then ['0', 'x']
      else if d.letter = 'X' then ['0', 'X']
      else if d.letter = 'o' && body.head? ≠ some '0' then ['0']
      else []
    d.padNumber d.precision.isNone mark body

/-- Digits with a point so many places before their end. -/
def withPoint (places : Nat) (number : Nat) : Octets :=
  let found := digits number
  let found := List.replicate (places + 1 - found.length) '0' ++ found
  let cut := found.length - places
  if places = 0 then found else found.take cut ++ '.' :: found.drop cut

/-- A number in digits, with an exponent. -/
def withExponent (places : Nat) (exponent : Int) (number : Nat) : Octets :=
  let size := digits exponent.natAbs
  withPoint places number ++ 'e' :: (if exponent < 0 then '-' else '+') ::
    (if size.length < 2 then '0' :: size else size)

/-- A fraction without the zeros at its end. -/
def withoutZeros (text : Octets) : Octets :=
  if text.contains '.' then
    let kept := (text.reverse.dropWhile (· = '0')).reverse
    if kept.getLast? = some '.' then kept.dropLast else kept
  else text

/-- The digits of a finite number m · 2^q. -/
def finite (d : Directive) (mantissa : Nat) (exponent : Int) : Octets :=
  let places := d.precision.getD 6
  match d.letter.toLower with
  | 'f' => withPoint places (Decimal.scaled mantissa exponent places)
  | 'e' =>
    let (power, number) := Decimal.exponentOf mantissa exponent places
    withExponent places power number
  | _ =>
    let significant := max places 1
    let (power, number) := Decimal.exponentOf mantissa exponent (significant - 1)
    if -4 ≤ power ∧ power < significant then
      let places := ((significant : Int) - 1 - power).toNat
      let text := withPoint places (Decimal.scaled mantissa exponent places)
      if d.has '#' then text else withoutZeros text
    else
      let text := withPoint (significant - 1) number
      let text := if d.has '#' then text else withoutZeros text
      text ++ (withExponent 0 power 0).drop 1

/-- A double as a directive writes it. -/
def real (d : Directive) (x : Float) : Octets :=
  let recase (text : Octets) : Octets := if d.letter.isUpper then text.map Char.toUpper else text
  match Decimal.Binary64.of x with
  | .nan => d.pad (recase (octets "nan"))
  | .infinite negative => d.pad (d.sign negative ++ recase (octets "inf"))
  | .finite negative mantissa exponent =>
    d.padNumber true (d.sign negative) (recase (d.finite mantissa exponent))

end Directive

/-- A value read from an argument, with a complaint about the argument if there is one. -/
abbrev Read (α : Type) := α × Option String

/-- What is wrong with an argument of which only a beginning is a number. -/
def conversionFault (rest argument : Octets) : Option String :=
  if rest.isEmpty then none
  else if rest.length = argument.length then some "expected numeric value"
  else some "not completely converted"

/-- The integer that an argument stands for: in the base that its start tells, or the code of the
    character behind a quote. -/
def integerArgument (argument : Octets) : Read Int :=
  match argument with
  | [] => (0, none)
  | '\'' :: c :: _ => (c.toNat, none)
  | '"' :: c :: _ => (c.toNat, none)
  | _ =>
    let (negative, unsigned) := Decimal.splitSign (argument.dropWhile isSpace)
    match Arith.unsigned? unsigned with
    | some (n, rest) =>
      let value := Decimal.withSign negative n
      let fault :=
        if Arith.clamp value ≠ value then some "Numerical result out of range"
        else conversionFault rest argument
      (Arith.clamp value, fault)
    | none => (0, conversionFault argument argument)

/-- The double that an argument stands for. -/
def realArgument (argument : Octets) : Read Float :=
  if argument.isEmpty then (0, none)
  else
    let text := argument.dropWhile isSpace
    let lengths := (List.range (text.length + 1)).reverse
    match lengths.findSome? fun n =>
        (Decimal.float? ((text.take n).map Char.toLower)).map fun x => (x, n) with
    | some (x, n) => (x, conversionFault (text.drop n) argument)
    | none => (0, conversionFault argument argument)

/-- The state of a format that is being written: the arguments left, what was written, complaints,
    and whether it is over. -/
structure Printing where
  title : Octets
  args : List Octets
  output : Octets := []
  errors : Octets := []
  status : Nat := 0
  isOver : Bool := false

namespace Printing

/-- The next argument; one that is missing is empty. -/
def next (p : Printing) : Octets × Printing := (p.args.headD [], { p with args := p.args.tail })

/-- A text written. -/
def put (p : Printing) (text : Octets) : Printing := { p with output := p.output ++ text }

/-- A complaint written. -/
def complain (p : Printing) (message : Octets) (status : Nat) : Printing :=
  { p with errors := p.errors ++ p.title ++ octets "printf: " ++ message ++ ['\n'], status }

/-- A complaint about an argument, if there is one. -/
def note (p : Printing) (argument : Octets) : Option String → Printing
  | some fault => p.complain (argument ++ octets ": " ++ octets fault) 1
  | none => p

/-- A number in a format: digits, or an asterisk for the next argument. -/
def number (p : Printing) (format : Octets) : Option Int × Octets × Printing :=
  match format with
  | '*' :: rest =>
    let (argument, p) := p.next
    (some (integerArgument argument).1, rest, p)
  | _ =>
    let found := format.takeWhile Char.isDigit
    (if found.isEmpty then none else some (Decimal.digitsValue found),
      format.drop found.length, p)

/-- An argument written by a directive. -/
def write (p : Printing) (d : Directive) : Printing :=
  let (argument, p) := p.next
  let cut (text : Octets) : Octets :=
    match d.precision with
    | some n => text.take n
    | none => text
  if "diouxX".toList.contains d.letter then
    let (n, fault) := integerArgument argument
    (p.note argument fault).put (d.integer n)
  else if "eEfFgG".toList.contains d.letter then
    let (x, fault) := realArgument argument
    (p.note argument fault).put (d.real x)
  else if d.letter = 'c' then p.put (d.pad (if argument.isEmpty then ['\x00'] else argument.take 1))
  else if d.letter = 'b' then
    let (text, stopped) := unescape true argument.length argument
    { p.put (d.pad (cut text)) with isOver := stopped }
  else p.put (d.pad (cut argument))

/-- A directive behind a percent sign is written; what follows it in the format is left. -/
def directive (p : Printing) (format : Octets) : Octets × Printing :=
  let isFlag (c : Char) : Bool := c = '-' || c = '+' || c = ' ' || c = '#' || c = '0'
  let flags := format.takeWhile isFlag
  let (width, rest, p) := p.number (format.dropWhile isFlag)
  let flags := if width.any (· < 0) then '-' :: flags else flags
  let (precision, rest, p) : Option Nat × Octets × Printing :=
    match rest with
    | '.' :: rest =>
      let (precision, rest, p) := p.number rest
      (if precision.any (· < 0) then none else some ((precision.getD 0).toNat), rest, p)
    | _ => (none, rest, p)
  match rest with
  | [] => ([], { p.complain (octets "missing format character") 2 with isOver := true })
  | letter :: rest =>
    if "diouxXeEfFgGcbs".toList.contains letter then
      (rest, p.write { flags, width := (width.getD 0).natAbs, precision, letter })
    else
      let shown := '%' :: format.take (format.length - rest.length)
      ([], { p.complain (shown ++ octets ": invalid directive") 2 with isOver := true })

/-- One pass over a format of at most `fuel` characters. -/
def pass : Nat → Octets → Printing → Printing
  | 0, _, p => p
  | _, [], p => p
  | fuel + 1, '%' :: '%' :: rest, p => pass fuel rest (p.put ['%'])
  | fuel + 1, '%' :: rest, p =>
    let (rest, p) := p.directive rest
    if p.isOver then p else pass fuel rest p
  | fuel + 1, c :: rest, p => pass fuel rest (p.put [c])

/-- A format written as often as it takes to use up the arguments. -/
def passes (format : Octets) : Nat → Printing → Printing
  | 0, p => p
  | fuel + 1, p =>
    let q := pass format.length format p
    if q.isOver || q.args.isEmpty || q.args.length = p.args.length then q
    else passes format fuel q

end Printing

/-- A format with its arguments. -/
def Request.printf (r : Request) : Effect :=
  match (if r.args.head? = some ['-', '-'] then r.args.tail else r.args) with
  | [] => .failure 2 (r.shellTitle ++ octets "printf: usage: printf format [arg ...]")
  | format :: args =>
    let (format, _) := unescape false format.length format
    let p := Printing.passes format (args.length + 1) { title := r.shellTitle, args }
    { chunks := [(true, p.errors), (false, p.output)], status := p.status }

end ArenaLisp.Shell
