import ArenaLisp.Diagnostic
import ArenaLisp.Files
import ArenaLisp.Input
import ArenaLisp.Node.Reader
import ArenaLisp.Value

/-!
# Faults

Everything that can stop an evaluation, by cause.  The faults of the language form a taxonomy
(reading, evaluating, applying a binding, sessions); beside them stand the strays, which come from
limits of the host and are no errors of the language, and the recursion limit.

## Main definitions

- `EvalFault`: misuse of a special form, an unknown name, a head that cannot be called.
- `ArityFault`: a binding applied to the wrong number of arguments.
- `BindingFault`: a binding that fails on its arguments.
- `SessionFault`: a script file that cannot be used.
- `Stray`: a failure outside of the taxonomy.
- `Fault`: all of them.
-/

namespace ArenaLisp

/-- The parts of a conditional, in order. -/
inductive IfPart where
  | test
  | consequent
  | alternative
  deriving Repr, DecidableEq

/-- Why a form cannot be evaluated. -/
inductive EvalFault where
  | symbolNotFound (name : String)
  | procNotFound (name : String)
  | headNotSymbol (head : Node)
  | unknownSymbol (name : String)
  | refersToItself (name : String)
  | emptyBody (name : String)
  | ifMissing (part : IfPart)
  | ifArguments (count : Nat)
  | defineWithoutSymbol
  | defineWithoutValue
  | lambdaWithoutParams
  | lambdaParamsNotList (params : Node)
  | lambdaParamNotSymbol (param : Node)
  | prognEmpty
  | formArguments (form : String) (count : Nat)
  | formNotString (form : String) (value : Value)
  | unreadable (path : String) (problem : FileFault)

/-- A binding was applied to the wrong number of arguments. -/
structure ArityFault where
  expected : Nat
  actual : Nat
  name : Option String := none
  atLeast : Bool := false
  deriving Repr, DecidableEq

/-- Why a binding fails on its arguments.  Each fault carries the name of the operation and the
    operands it complains about. -/
inductive BindingFault where
  | overflow (name : String) (value : Int)
  | notNumbers (name : String) (a b : Value)
  | divisionByZero (name : String) (a b : Value)
  | notIntegers (name : String) (a b : Value)
  | unexpectedKind (name : String) (expected : List Value.Kind) (value : Value)
  | notBoolean (name : String) (value : Value)
  | noElement (name : String)
  | emptySeparator (name : String)
  | unreadable (name path : String) (problem : FileFault)
  | notDecimal (name text : String)
  | inputRefused (name : String) (fault : HostFault)
  | notRun (name command : String) (fault : HostFault)
  | assertionFailed (value : Value)
  | assertionUnequal (a b : Value)

/-- Why a script file cannot be used by a session. -/
inductive SessionFault where
  | cannotOpen (path : String)
  | reservedName
  deriving Repr, DecidableEq

/-- A failure outside of the taxonomy of the language. -/
inductive Stray where
  | tooManyDigits (digits : Nat)
  | infiniteDividend
  | nullByte
  | releasedScope
  | cannotList (problem : FileFault)
  | inputNotText (problem : Text.Utf8.Malformed)
  | inputRefused (fault : HostFault)
  | outputNotText (problem : Text.Utf8.Malformed)
  | unknownScoping (name : String)
  | unfilled (problem : Diagnostic.TemplateFault)
  deriving Repr, DecidableEq

/-- The stray that a line of input is that cannot be read and that nobody deals with. -/
def InputFault.stray : InputFault → Stray
  | .notText problem => .inputNotText problem
  | .refused fault => .inputRefused fault

/-- What stops an evaluation. -/
inductive Fault where
  | read (fault : ReadFault)
  | eval (fault : EvalFault)
  | arity (fault : ArityFault)
  | binding (fault : BindingFault)
  | session (fault : SessionFault)
  | stray (fault : Stray)
  | recursionLimit

end ArenaLisp
