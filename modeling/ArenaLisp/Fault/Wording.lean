import ArenaLisp.Diagnostic
import ArenaLisp.Fault

/-!
# Faults in words

The wording of every fault, in one place.  Faults of the language become diagnostics, in which the
offending snippets can be emphasised; strays have a label and a message.

## Main definitions

- `Stray.label`, `Stray.message`: how a stray is reported.
- `Fault.diagnostic?`: the diagnostic of a fault of the language.
- `Fault.label`, `Fault.message`: how any fault is reported.
-/

namespace ArenaLisp

open Diagnostic (Part)

/-- The message of a template that cannot be filled. -/
def Diagnostic.TemplateFault.message : Diagnostic.TemplateFault → String
  | .noSnippet slot =>
    "Replacement index " ++ toString slot ++ " out of range for positional args tuple"
  | .singleBrace brace => "Single '" ++ brace.toString ++ "' encountered in format string"
  | .unclosedSlot => "expected '\x7d' before end of string"
  | .nestedSlot => "unexpected '\x7b' in field name"
  | .namedSlot name => Text.quoted name

/-- The label under which a stray is reported. -/
def Stray.label : Stray → String
  | .releasedScope | .unfilled (.noSnippet _) => "IndexError"
  | .unfilled (.namedSlot _) => "KeyError"
  | .cannotList (.missing _) => "FileNotFoundError"
  | .cannotList (.notDirectory _) => "NotADirectoryError"
  | .cannotList _ => "OSError"
  | .inputNotText _ | .outputNotText _ => "UnicodeDecodeError"
  | .inputRefused fault => fault.label
  | _ => "ValueError"

/-- The message of a stray. -/
def Stray.message : Stray → String
  | .tooManyDigits digits =>
    "Exceeds the limit (4300 digits) for integer string conversion: value has " ++
      toString digits ++ " digits; use sys.set_int_max_str_digits() to increase the limit"
  | .infiniteDividend => "math domain error"
  | .nullByte => "embedded null byte"
  | .releasedScope => "list index out of range"
  | .cannotList problem => problem.message
  | .inputNotText problem | .outputNotText problem => problem.message
  | .inputRefused fault => fault.message
  | .unknownScoping name => Text.quoted name ++ " is not a valid Scoping"
  | .unfilled problem => problem.message

/-- The wording of a lexical fault. -/
def LexFault.parts : LexFault → List Part
  | .invalidToken c place =>
    [.plain "invalid token ", .shown (Text.quoted c.toString), .plain " at line ",
      .shown (toString place.line), .plain ", column ", .shown (toString place.column)]
  | .invalidCharacter c symbol place =>
    [.plain "invalid character ", .shown (Text.quoted c.toString), .plain " in symbol '",
      .shown symbol, .plain "' at line ", .shown (toString place.line), .plain ", column ",
      .shown (toString place.column)]
  | .unterminatedString place =>
    [.plain "unterminated string starting at line ", .shown (toString place.line),
      .plain ", column ", .shown (toString place.column)]

/-- The diagnostic of a lexical fault. -/
def LexFault.diagnostic (fault : LexFault) : Diagnostic :=
  let kind := match fault with
    | .unterminatedString _ => .unterminatedString
    | _ => .lexical
  { kind, parts := fault.parts }

/-- The diagnostic of a fault of reading.  A literal with too many digits is no error of the
    language. -/
def ReadFault.diagnostic? : ReadFault → Option Diagnostic
  | .lexical fault => some fault.diagnostic
  | .tooManyDigits _ => none
  | .literalOutOfRange text => some
      { kind := .parse
        parts := [.plain "integer literal '", .shown text, .plain "' out of range"] }
  | .closedWithoutList => some
      { kind := .parse, parts := [.plain "list end without current list"] }
  | .unexpectedToken token => some
      { kind := .parse, parts := [.plain "unexpected token ", .shown token.describe] }
  | .unclosed lists => some
      { kind := .parse
        parts := [.plain "reached end of input with ", .shown (toString lists),
          .plain " unclosed list(s)"] }

/-- The name of a part of a conditional. -/
def IfPart.name : IfPart → String
  | .test => "test"
  | .consequent => "consequent"
  | .alternative => "alternative"

/-- The wording of a fault of evaluation. -/
def EvalFault.parts : EvalFault → List Part
  | .symbolNotFound name => [.plain "symbol not found: '", .shown name, .plain "'"]
  | .procNotFound name => [.plain "proc not found: '", .shown name, .plain "'"]
  | .headNotSymbol head =>
    [.plain "'", .shown head.render, .plain "' is not callable: list head must be a symbol"]
  | .unknownSymbol name => [.plain "unknown symbol: '", .shown name, .plain "'"]
  | .refersToItself name => [.plain "'", .shown name, .plain "' refers to itself"]
  | .emptyBody name => [.plain "'", .shown name, .plain "' has an empty body"]
  | .ifMissing part => [.plain "'if' is missing its ", .shown part.name]
  | .ifArguments count =>
    [.plain "'if' expects exactly 3 arguments, got ", .shown (toString count)]
  | .defineWithoutSymbol => [.plain "no symbol for define"]
  | .defineWithoutValue => [.plain "no value for define"]
  | .lambdaWithoutParams => [.plain "no parameter list for lambda"]
  | .lambdaParamsNotList params =>
    [.plain "lambda parameters must be a list, got '", .shown params.render, .plain "'"]
  | .lambdaParamNotSymbol param =>
    [.plain "lambda parameter '", .shown param.render, .plain "' is not a symbol"]
  | .prognEmpty => [.plain "'progn' needs at least one expression"]
  | .formArguments form count =>
    [.plain "'", .shown form, .plain "' expects exactly 1 argument, got ",
      .shown (toString count)]
  | .formNotString form value =>
    [.plain "'", .shown form, .plain "' expects a string, got ", .shown value.describe]
  | .unreadable path problem =>
    [.plain "'", .shown path, .plain "' could not be read: ", .shown problem.message]

/-- The wording of a wrong number of arguments.  Only the name of the binding is emphasised. -/
def ArityFault.parts (fault : ArityFault) : List Part :=
  let counts := "expected " ++ (if fault.atLeast then "at least " else "") ++
    toString fault.expected ++ " argument(s), got " ++ toString fault.actual
  match fault.name with
  | none => [.plain counts]
  | some name => [.plain "'", .shown name, .plain ("' " ++ counts)]

/-- The diagnostic of a wrong number of arguments. -/
def ArityFault.diagnostic (fault : ArityFault) : Diagnostic :=
  { kind := .argumentCount, parts := fault.parts }

/-- The wording of a binding that fails on its arguments. -/
def BindingFault.parts : BindingFault → List Part
  | .overflow name value =>
    [.plain "'", .shown name, .plain "' overflowed: ", .shown (Decimal.integerText value)]
  | .notNumbers name a b =>
    [.plain "'", .shown name, .plain "' cannot be applied to ", .shown a.describe,
      .plain " and ", .shown b.describe]
  | .divisionByZero name a b =>
    [.plain "'", .shown name, .plain "' division by zero: ", .shown a.describe, .plain " and ",
      .shown b.describe]
  | .notIntegers name a b =>
    [.plain "'", .shown name, .plain "' expects two integers, got ", .shown a.describe,
      .plain " and ", .shown b.describe]
  | .unexpectedKind name expected value =>
    [.plain "'", .shown name, .plain "' expects ",
      .shown (" or ".intercalate (expected.map Value.Kind.name)), .plain ", got ",
      .shown value.describe]
  | .notBoolean name value =>
    [.plain "'", .shown name, .plain "' expects booleans (0 or 1), got ", .shown value.describe]
  | .noElement name => [.plain "'", .shown name, .plain "' list does not have an element"]
  | .emptySeparator name => [.plain "'", .shown name, .plain "' separator cannot be empty"]
  | .unreadable name path problem =>
    [.plain "'", .shown name, .plain "' could not read '", .shown path, .plain "': ",
      .shown problem.message]
  | .notDecimal name text =>
    [.plain "'", .shown name, .plain "' error parsing '", .shown text, .plain "'"]
  | .inputRefused name fault =>
    [.plain "'", .shown name, .plain "' error while reading from stdin: ", .shown fault.message]
  | .notRun name command fault =>
    [.plain "'", .shown name, .plain "' could not run '", .shown command, .plain "': ",
      .shown fault.message]
  | .assertionFailed value => [.plain "assertion failed: ", .shown value.describe]
  | .assertionUnequal a b =>
    [.plain "assertion failed: ", .shown a.describe, .plain " != ", .shown b.describe]

/-- The wording of a script file that cannot be used. -/
def SessionFault.parts : SessionFault → List Part
  | .cannotOpen path => [.plain "'", .shown path, .plain "' could not be opened"]
  | .reservedName => [.plain "'<in>' is a reserved filename"]

namespace Fault

/-- The diagnostic of a fault of the language; strays and the recursion limit have none. -/
def diagnostic? : Fault → Option Diagnostic
  | .read fault => fault.diagnostic?
  | .eval fault => some { kind := .eval, parts := fault.parts }
  | .arity fault => some fault.diagnostic
  | .binding fault => some { kind := .binding, parts := fault.parts }
  | .session fault => some { kind := .generic, parts := fault.parts }
  | .stray _ => none
  | .recursionLimit => none

/-- The stray that a fault is, if it is one. -/
def stray? : Fault → Option Stray
  | .read (.tooManyDigits digits) => some (.tooManyDigits digits)
  | .stray fault => some fault
  | _ => none

/-- The label under which a fault is reported. -/
def label (fault : Fault) : String :=
  match fault.diagnostic?, fault.stray? with
  | some d, _ => d.kind.label
  | none, some other => other.label
  | none, none => "RecursionError"

/-- The message of a fault. -/
def message (fault : Fault) : String :=
  match fault.diagnostic?, fault.stray? with
  | some d, _ => d.message
  | none, some other => other.message
  | none, none => "maximum recursion depth exceeded"

end Fault

end ArenaLisp
