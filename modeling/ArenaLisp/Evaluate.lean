import ArenaLisp.Library.Operations

/-!
# Evaluation

A node is evaluated in a scope.  Literals are their own values, a symbol yields what it is bound to,
and a list is a special form or a call.  A call of a lambda opens a scope for its parameters, the
*frame*, under the scope of the call (dynamic scoping) or under the scope the lambda was made in
(lexical scoping); when the call ends, normally or in a fault, the frame is left.

The evaluator is written with open recursion: `evaluateNode` gives the value of a node with the
values of other nodes supplied by its parameter `ev`, and `evaluateWith` closes the loop, bounding
how deep evaluations may be nested.  What leaving a frame means is a parameter too.

The bound is that of the host's stack.  When it is reached, the evaluation ends in a fault like any
other; but a call makes its frame and traces that before anything is ready to leave it, so a frame
for which there is just no room is never left.

## Main definitions

- `Scoping`, `Settings`: how scripts are evaluated.
- `SpecialForm`, `Settings.form?`: the forms whose arguments are not evaluated up front.
- `callLambda`, `invoke`: calls.
- `evaluateNode`: one node.
- **`evaluate`**: evaluation with frames reclaimed and nesting bounded.
- **`runSource`**: a source read as a whole, then evaluated form by form.
-/

namespace ArenaLisp

/-! ## Settings -/

/-- Where the frame of a lambda is attached: under the scope of the call, or under the scope the
    lambda was made in. -/
inductive Scoping where
  | dynamic
  | lexical
  deriving Repr, DecidableEq

/-- The scoping with a given name. -/
def Scoping.ofName (name : String) : Except Fault Scoping :=
  if name = "dynamic" then .ok .dynamic
  else if name = "lexical" then .ok .lexical
  else .error (.stray (.unknownScoping name))

/-- How scripts are evaluated: the scoping, which of the two optional special forms there are, and
    how much the stack takes. -/
structure Settings where
  scoping : Scoping := .dynamic
  hasEval : Bool := true
  hasInclude : Bool := true
  stack : Stack := {}
  deriving Repr, DecidableEq

/-- The settings with the capabilities that a list of names grants; other names grant nothing. -/
def Settings.withCapabilities (s : Settings) (names : List String) : Settings :=
  { s with hasEval := names.contains "eval", hasInclude := names.contains "include" }

/-- The special forms. -/
inductive SpecialForm where
  | conditional
  | define
  | lambda
  | sequence
  | eval
  | inclusion
  deriving Repr, DecidableEq

/-- The special form of a name.  An optional form that is not granted is a name like any other. -/
def Settings.form? (s : Settings) (name : String) : Option SpecialForm :=
  match name with
  | "if" => some .conditional
  | "define" => some .define
  | "lambda" => some .lambda
  | "progn" => some .sequence
  | "eval" => if s.hasEval then some .eval else none
  | "include" => if s.hasInclude then some .inclusion else none
  | _ => none

/-! ## Sequences -/

/-- The evaluation of a node in a scope. -/
abbrev Evaluation := Node → Handle → Run Value

/-- The values of several nodes, from left to right. -/
def evaluateAll (ev : Evaluation) (env : Handle) : List Node → Run (List Value)
  | [] => pure []
  | node :: rest => do
    let value ← ev node env
    let values ← evaluateAll ev env rest
    return value :: values

/-- The value of the last of several nodes, all evaluated in order; `last` if there are none. -/
def evaluateBody (ev : Evaluation) (env : Handle) (last : Value) : List Node → Run Value
  | [] => pure last
  | node :: rest => do
    let value ← ev node env
    evaluateBody ev env value rest

/-- Reads all of a source, then evaluates its forms in order: the value of the last one, unit if
    there are none.  Nothing is evaluated if the source cannot be read. -/
def runWith (ev : Evaluation) (source : String) (env : Handle) : Run Value := do
  match parse source with
  | .error fault => throw (.read fault)
  | .ok nodes => evaluateBody ev env .unit nodes

/-! ## Calls -/

/-- What happens to a frame when its call ends. -/
abbrev Leave := Settings → Handle → World → World

/-- A frame is released together with every scope made after it, unless a lambda may still hold on
    to one of them.  There is room for that wherever there was room to trace that it was made. -/
def reclaimFrame : Leave := fun s frame w =>
  if s.scoping = .dynamic ∨ !w.arena.isCaptured frame then w.release frame else w

/-- Binds parameters to arguments in a frame. -/
def bindParams (frame : Handle) : List String → List Value → Run Unit
  | param :: params, arg :: args => do
    Run.define frame param arg
    bindParams frame params args
  | _, _ => pure ()

/-- The scope under which the frame of a lambda is opened. -/
def Settings.frameParent (s : Settings) (captured : Option Handle) (env : Handle) : Handle :=
  match s.scoping, captured with
  | .lexical, some scope => scope
  | _, _ => env

/-- Calls a lambda under a name: its body is evaluated in a fresh frame, which is left however the
    evaluation ends.  `left` is how many evaluations can still be nested. -/
def callLambda (s : Settings) (leave : Leave) (left : Nat) (ev : Evaluation) (name : String)
    (params : List String) (body : List Node) (captured : Option Handle) (args : List Value)
    (env : Handle) : Run Value := do
  if params.length ≠ args.length then
    throw (.arity { expected := params.length, actual := args.length, name := some name })
  if body.isEmpty then throw (.eval (.emptyBody name))
  let frame ← Run.openScope (s.frameParent captured env) (s.stack.trace ≤ left)
  Run.guarded (leave s frame) (do
    bindParams frame params args
    evaluateBody ev frame .unit body)

/-- Invokes what a name is bound to.  A builtin is applied and a lambda is called; a reference
    forwards the call to the binding of its name, looked up where the call is; any other value is
    its own result and takes no arguments. -/
def invokeWithin (s : Settings) (leave : Leave) (left : Nat) (ev : Evaluation) :
    Nat → String → Binding → List Value → Handle → Run Value
  | _, _, .builtin b, args, env => b.apply env args
  | _, name, .constant (.lambda params body captured), args, env =>
    callLambda s leave left ev name params body captured args env
  | 0, _, .constant (.reference _), _, _ => throw .recursionLimit
  | forwards + 1, name, .constant (.reference target), args, env => do
    match ← Run.lookup env target with
    | none => throw (.eval (.unknownSymbol target))
    | some binding =>
      if target = name then throw (.eval (.refersToItself target))
      invokeWithin s leave left ev forwards target binding args env
  | _, name, .constant value, args, _ =>
    if args.isEmpty then pure value
    else throw (.arity { expected := 0, actual := args.length, name := some name })

/-- Invokes what a name is bound to, from a scope. -/
def invokeWith (s : Settings) (leave : Leave) (left : Nat) (ev : Evaluation) (name : String)
    (binding : Binding) (args : List Value) (env : Handle) : Run Value :=
  invokeWithin s leave left ev s.stack.forwards name binding args env

/-! ## Special forms -/

/-- A conditional: the integer 1 selects the first branch, anything else the second. -/
def evaluateIf (ev : Evaluation) (args : List Node) (env : Handle) : Run Value :=
  match args with
  | [test, consequent, alternative] => do
    let value ← ev test env
    if value.isYes then ev consequent env else ev alternative env
  | [] => throw (.eval (.ifMissing .test))
  | [_] => throw (.eval (.ifMissing .consequent))
  | [_, _] => throw (.eval (.ifMissing .alternative))
  | args => throw (.eval (.ifArguments args.length))

/-- A definition binds a symbol in the scope at hand.  With anything but a symbol in its place
    nothing is evaluated. -/
def evaluateDefine (ev : Evaluation) (args : List Node) (env : Handle) : Run Value :=
  match args with
  | [] => throw (.eval .defineWithoutSymbol)
  | [_] => throw (.eval .defineWithoutValue)
  | .symbol name :: expr :: _ => do
    let value ← ev expr env
    Run.log .evaluator fun _ => "defined " ++ name ++ " to be " ++ value.describe
    Run.define env name value
    return .unit
  | _ => pure .unit

/-- The names of a parameter list, or the first item that is no symbol. -/
def paramNames : List Node → Except EvalFault (List String)
  | [] => .ok []
  | .symbol name :: rest => (paramNames rest).map (name :: ·)
  | param :: _ => .error (.lambdaParamNotSymbol param)

/-- A lambda form makes a lambda; under lexical scoping it captures the scope at hand. -/
def evaluateLambda (s : Settings) (args : List Node) (env : Handle) : Run Value :=
  match args with
  | [] => throw (.eval .lambdaWithoutParams)
  | .list params :: body =>
    match paramNames params with
    | .error fault => throw (.eval fault)
    | .ok names =>
      match s.scoping with
      | .lexical => do
        Run.capture env
        return .lambda names body (some env)
      | .dynamic => pure (.lambda names body none)
  | params :: _ => throw (.eval (.lambdaParamsNotList params))

/-- The single argument of a form that takes a string. -/
def stringArgument (ev : Evaluation) (form : String) (args : List Node) (env : Handle) :
    Run String :=
  match args with
  | [arg] => do
    match ← ev arg env with
    | .string text => return text
    | value => throw (.eval (.formNotString form value))
  | args => throw (.eval (.formArguments form args.length))

/-- The text of a script file. -/
def readSource (path : String) : Run String := do
  match ← Run.readText path with
  | .ok text => return String.ofList text
  | .error problem => throw (.eval (.unreadable path problem))

/-- Evaluates a special form. -/
def evaluateForm (s : Settings) (ev : Evaluation) (form : SpecialForm) (args : List Node)
    (env : Handle) : Run Value :=
  match form with
  | .conditional => evaluateIf ev args env
  | .define => evaluateDefine ev args env
  | .lambda => evaluateLambda s args env
  | .sequence =>
    match args with
    | [] => throw (.eval .prognEmpty)
    | nodes => evaluateBody ev env .unit nodes
  | .eval => do
    let source ← stringArgument ev "eval" args env
    runWith ev source env
  | .inclusion => do
    let path ← stringArgument ev "include" args env
    Run.log .evaluator fun _ => "including " ++ path
    let source ← readSource path
    let _ ← runWith ev source env
    return .unit

/-! ## Nodes -/

/-- A call: the arguments are evaluated from left to right, then the head is looked up and
    invoked. -/
def evaluateCall (s : Settings) (leave : Leave) (left : Nat) (ev : Evaluation) (name : String)
    (args : List Node) (env : Handle) : Run Value := do
  let values ← evaluateAll ev env args
  match ← Run.lookup env name with
  | none => throw (.eval (.procNotFound name))
  | some binding =>
    Run.log .evaluator fun _ =>
      "calling " ++ name ++ " with " ++ toString values.length ++ " argument(s)"
    invokeWith s leave left ev name binding values env

/-- Evaluates one node, with the nodes inside it evaluated by `ev`, which can be nested `left`
    deep. -/
def evaluateNode (s : Settings) (leave : Leave) (left : Nat) (ev : Evaluation) : Evaluation
  | .literal value, _ => pure (.ofLiteral value)
  | .symbol name, env => do
    match ← Run.lookup env name with
    | none => throw (.eval (.symbolNotFound name))
    | some (.builtin _) => return .reference name
    | some (.constant value) => return value
  | .list [], _ => pure .unit
  | .list (.symbol name :: args), env =>
    match s.form? name with
    | some form => do
      Run.log .evaluator fun _ => "special form " ++ name
      evaluateForm s ev form args env
    | none => evaluateCall s leave left ev name args env
  | .list (head :: _), _ => throw (.eval (.headNotSymbol head))

/-- Evaluation with evaluations nested at most `depth` deep. -/
def evaluateWith (s : Settings) (leave : Leave) : Nat → Evaluation
  | 0, _, _ => throw .recursionLimit
  | depth + 1, node, env => evaluateNode s leave depth (evaluateWith s leave depth) node env

/-- **Evaluates a node** in a scope. -/
def evaluate (s : Settings) : Evaluation := evaluateWith s reclaimFrame s.stack.depth

/-- Invokes what a name is bound to, from a scope. -/
def invoke (s : Settings) (name : String) (binding : Binding) (args : List Value)
    (env : Handle) : Run Value :=
  invokeWith s reclaimFrame s.stack.depth (evaluate s) name binding args env

/-- **Runs a source** in a scope. -/
def runSource (s : Settings) (source : String) (env : Handle) : Run Value :=
  runWith (evaluate s) source env

/-- Runs the script file at a path in a scope. -/
def runFile (s : Settings) (path : String) (env : Handle) : Run Value := do
  let source ← readSource path
  runSource s source env

end ArenaLisp
