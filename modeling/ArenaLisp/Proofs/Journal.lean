import ArenaLisp.Proofs.Frame

/-!
# The journal of a run

A run leaves nothing behind but its outcome and its last world.  To speak about *every point* of a
run, the evaluator is written once more with a journal: each step that touches the arena is noted,
and so is every value that an evaluation comes to.  The journal changes nothing: without it, the
journalled evaluator is the evaluator, equation by equation.

A point of a run is then a part of its journal up to some moment.

* `Event`, `Moment` — what is noted, and the arena right after it.
* `Journal` — computations with a journal.
* `Journal.evaluateWith`, `Journal.runWith` — the evaluator with its journal.
* **`Journal.plain_evaluateWith`**, `Journal.run_runWith` — keeping a journal changes nothing.
-/

namespace ArenaLisp

/-- What is noted in a journal: a scope was opened, a name was bound, a lambda form was evaluated
under lexical scoping, a frame was released with all scopes made after it, or a value came up. -/
inductive Event where
  | opened (parent : Handle)
  | bound (scope : Handle) (name : String) (value : Value)
  | made (closure : Closure)
  | released (frame : Handle)
  | evaluated (value : Value)

/-- What an event does to the arena.  A lambda marks the scope its form was evaluated in. -/
def Event.apply (a : Arena) : Event → Arena
  | .opened parent => a.child parent
  | .bound scope name value => a.define scope name value
  | .made closure => a.capture closure.scope
  | .released frame => a.release frame
  | .evaluated _ => a

/-- An event, and the arena right after it. -/
structure Moment where
  event : Event
  arena : Arena

/-- The arena at a point of a journal: the one that was noted last. -/
def arenaAt (past : List Moment) : Arena := (past.getLast?.map Moment.arena).getD Arena.default

@[simp] lemma arenaAt_nil : arenaAt [] = Arena.default := by
  simp [arenaAt]

@[simp] lemma arenaAt_concat (past : List Moment) (m : Moment) :
    arenaAt (past ++ [m]) = m.arena := by
  simp [arenaAt]

/-- A computation together with the moments it goes through, from any world. -/
structure Journal (α : Type) where
  run : Run α
  moments : World → List Moment

namespace Journal

/-- A second computation is journalled from where the first one ended, if it ended in a value. -/
instance : Monad Journal where
  pure value := ⟨pure value, fun _ => []⟩
  bind x f := {
    run := x.run >>= fun value => (f value).run
    moments := fun w => x.moments w ++
      match x.run w with
      | .ok value w' => (f value).moments w'
      | .error _ _ => [] }

/-- A computation in which nothing is noted. -/
def quiet (x : Run α) : Journal α := ⟨x, fun _ => []⟩

/-- A computation that is noted as one event if it succeeds. -/
def step (x : Run α) (event : Event) : Journal α where
  run := x
  moments w :=
    match x w with
    | .ok _ w' => [⟨event, w'.arena⟩]
    | .error _ _ => []

lemma moments_bind_of_ok {x : Journal α} {f : α → Journal β} {value : α} {w w' : World}
    (h : x.run w = .ok value w') :
    (x >>= f).moments w = x.moments w ++ (f value).moments w' := by
  simp only [bind, h]

lemma moments_bind_of_error {x : Journal α} {f : α → Journal β} {fault : Fault} {w w' : World}
    (h : x.run w = .error fault w') : (x >>= f).moments w = x.moments w := by
  simp only [bind, h, List.append_nil]

lemma moments_step_of_ok {x : Run α} {event : Event} {value : α} {w w' : World}
    (h : x w = .ok value w') : (step x event).moments w = [⟨event, w'.arena⟩] := by
  simp only [step, h]

/-- A computation whose value is noted. -/
def noted (x : Journal Value) : Journal Value where
  run := x.run
  moments w := x.moments w ++
    match x.run w with
    | .ok value w' => [⟨.evaluated value, w'.arena⟩]
    | .error _ _ => []

/-- What is noted when a frame is left: its release, unless it is kept. -/
def released (s : Settings) (frame : Handle) (w : World) : List Moment :=
  if s.scoping = .dynamic ∨ !w.arena.isCaptured frame
  then [⟨.released frame, (reclaimFrame s frame w).arena⟩]
  else []

/-- A computation after which a frame is left, however it ends. -/
def leaving (s : Settings) (frame : Handle) (x : Journal α) : Journal α where
  run := Run.guarded (reclaimFrame s frame) x.run
  moments w := x.moments w ++ released s frame (x.run.after w)

/-! ## The evaluator with its journal -/

/-- The evaluation of a node in a scope, journalled. -/
abbrev Evaluation := Node → Handle → Journal Value

/-- An evaluation without its journal. -/
def plain (ev : Evaluation) : ArenaLisp.Evaluation := fun node env => (ev node env).run

def evaluateAll (ev : Evaluation) (env : Handle) : List Node → Journal (List Value)
  | [] => pure []
  | node :: rest => do
    let value ← ev node env
    let values ← evaluateAll ev env rest
    return value :: values

def evaluateBody (ev : Evaluation) (env : Handle) (last : Value) : List Node → Journal Value
  | [] => pure last
  | node :: rest => do
    let value ← ev node env
    evaluateBody ev env value rest

def runWith (ev : Evaluation) (source : String) (env : Handle) : Journal Value :=
  match parse source with
  | .error fault => quiet (throw (.read fault))
  | .ok nodes => evaluateBody ev env .unit nodes

def bindParams (frame : Handle) : List String → List Value → Journal Unit
  | param :: params, arg :: args => do
    step (Run.define frame param arg) (.bound frame param arg)
    bindParams frame params args
  | _, _ => pure ()

def inFrame (ev : Evaluation) (params : List String) (body : List Node) (args : List Value)
    (frame : Handle) : Journal Value := do
  bindParams frame params args
  evaluateBody ev frame .unit body

/-- The scope is noted as soon as it is there, also if the stack runs out while it is traced. -/
def openScope (h : Handle) (room : Bool) : Journal Handle := do
  let frame ← step (Run.addScope h) (.opened h)
  quiet (Run.traceScope h frame room)
  return frame

/-- Whether or not there is room on the stack, one event is noted. -/
lemma moments_openScope (h : Handle) (room : Bool) (w : World) :
    (openScope h room).moments w = [⟨.opened h, w.arena.child h⟩] := by
  have hadd : (step (Run.addScope h) (.opened h)).run w =
      .ok w.arena.size (w.withArena (w.arena.child h)) := rfl
  rw [openScope, moments_bind_of_ok hadd]
  cases room <;> rfl

def callLambda (s : Settings) (left : Nat) (ev : Evaluation) (name : String)
    (params : List String) (body : List Node) (captured : Option Handle) (args : List Value)
    (env : Handle) : Journal Value :=
  if params.length ≠ args.length then
    quiet (throw (.arity { expected := params.length, actual := args.length, name := some name }))
  else if body.isEmpty then quiet (throw (.eval (.emptyBody name)))
  else do
    let frame ← openScope (s.frameParent captured env) (s.stack.trace ≤ left)
    leaving s frame (inFrame ev params body args frame)

def invokeWithin (s : Settings) (left : Nat) (ev : Evaluation) :
    Nat → String → Binding → List Value → Handle → Journal Value
  | _, _, .builtin b, args, env => quiet (b.apply env args)
  | _, name, .constant (.lambda params body captured), args, env =>
    callLambda s left ev name params body captured args env
  | 0, _, .constant (.reference _), _, _ => quiet (throw .recursionLimit)
  | forwards + 1, name, .constant (.reference target), args, env => do
    match ← quiet (Run.lookup env target) with
    | none => quiet (throw (.eval (.unknownSymbol target)))
    | some binding =>
      if target = name then quiet (throw (.eval (.refersToItself target)))
      else invokeWithin s left ev forwards target binding args env
  | _, name, .constant value, args, _ =>
    if args.isEmpty then pure value
    else quiet (throw (.arity { expected := 0, actual := args.length, name := some name }))

def evaluateIf (ev : Evaluation) (args : List Node) (env : Handle) : Journal Value :=
  match args with
  | [test, consequent, alternative] => do
    let value ← ev test env
    if value.isYes then ev consequent env else ev alternative env
  | args => quiet (ArenaLisp.evaluateIf (plain ev) args env)

def evaluateDefine (ev : Evaluation) (args : List Node) (env : Handle) : Journal Value :=
  match args with
  | .symbol name :: expr :: _ => do
    let value ← ev expr env
    quiet (Run.log .evaluator fun _ => "defined " ++ name ++ " to be " ++ value.describe)
    step (Run.define env name value) (.bound env name value)
    return .unit
  | args => quiet (ArenaLisp.evaluateDefine (plain ev) args env)

/-- Under lexical scoping the lambda that is made holds on to the scope at hand. -/
def makeLambda (s : Settings) (params : List String) (body : List Node) (env : Handle) :
    Journal Value :=
  match s.scoping with
  | .lexical => do
    step (Run.capture env) (.made ⟨params, body, env⟩)
    return .lambda params body (some env)
  | .dynamic => pure (.lambda params body none)

def evaluateLambda (s : Settings) (args : List Node) (env : Handle) : Journal Value :=
  match args with
  | .list params :: body =>
    match paramNames params with
    | .error fault => quiet (throw (.eval fault))
    | .ok names => makeLambda s names body env
  | args => quiet (ArenaLisp.evaluateLambda s args env)

def stringArgument (ev : Evaluation) (form : String) (args : List Node) (env : Handle) :
    Journal String :=
  match args with
  | [arg] => do
    match ← ev arg env with
    | .string text => return text
    | value => quiet (throw (.eval (.formNotString form value)))
  | args => quiet (throw (.eval (.formArguments form args.length)))

def evaluateForm (s : Settings) (ev : Evaluation) (form : SpecialForm) (args : List Node)
    (env : Handle) : Journal Value :=
  match form with
  | .conditional => evaluateIf ev args env
  | .define => evaluateDefine ev args env
  | .lambda => evaluateLambda s args env
  | .sequence =>
    match args with
    | [] => quiet (throw (.eval .prognEmpty))
    | nodes => evaluateBody ev env .unit nodes
  | .eval => do
    let source ← stringArgument ev "eval" args env
    runWith ev source env
  | .inclusion => do
    let path ← stringArgument ev "include" args env
    quiet (Run.log .evaluator fun _ => "including " ++ path)
    let source ← quiet (readSource path)
    let _ ← runWith ev source env
    return .unit

def evaluateCall (s : Settings) (left : Nat) (ev : Evaluation) (name : String)
    (args : List Node) (env : Handle) : Journal Value := do
  let values ← evaluateAll ev env args
  match ← quiet (Run.lookup env name) with
  | none => quiet (throw (.eval (.procNotFound name)))
  | some binding => do
    quiet (Run.log .evaluator fun _ =>
      "calling " ++ name ++ " with " ++ toString values.length ++ " argument(s)")
    invokeWithin s left ev s.stack.forwards name binding values env

def evaluateNode (s : Settings) (left : Nat) (ev : Evaluation) : Evaluation
  | .literal value, _ => pure (.ofLiteral value)
  | .symbol name, env => do
    match ← quiet (Run.lookup env name) with
    | none => quiet (throw (.eval (.symbolNotFound name)))
    | some (.builtin _) => return .reference name
    | some (.constant value) => return value
  | .list [], _ => pure .unit
  | .list (.symbol name :: args), env =>
    match s.form? name with
    | some form => do
      quiet (Run.log .evaluator fun _ => "special form " ++ name)
      evaluateForm s ev form args env
    | none => evaluateCall s left ev name args env
  | .list (head :: _), _ => quiet (throw (.eval (.headNotSymbol head)))

/-- Every value that an evaluation comes to is noted. -/
def evaluateWith (s : Settings) : Nat → Evaluation
  | 0, _, _ => quiet (throw .recursionLimit)
  | depth + 1, node, env => noted (evaluateNode s depth (evaluateWith s depth) node env)

/-! ## Keeping a journal changes nothing -/

@[simp] lemma run_pure (value : α) : (pure value : Journal α).run = pure value := rfl

@[simp] lemma run_bind (x : Journal α) (f : α → Journal β) :
    (x >>= f).run = x.run >>= fun value => (f value).run := rfl

@[simp] lemma run_quiet (x : Run α) : (quiet x).run = x := rfl

@[simp] lemma run_step (x : Run α) (event : Event) : (step x event).run = x := rfl

@[simp] lemma run_leaving (s : Settings) (frame : Handle) (x : Journal α) :
    (leaving s frame x).run = Run.guarded (reclaimFrame s frame) x.run := rfl

section Plain

variable (s : Settings) (left : Nat) (ev : Evaluation)

@[simp] lemma run_evaluateAll (env : Handle) (nodes : List Node) :
    (evaluateAll ev env nodes).run = ArenaLisp.evaluateAll (plain ev) env nodes := by
  induction nodes with
  | nil => rfl
  | cons node rest ih =>
      simp only [evaluateAll, run_bind, ih, run_pure]
      rfl

@[simp] lemma run_evaluateBody (env : Handle) : ∀ (nodes : List Node) (last : Value),
    (evaluateBody ev env last nodes).run = ArenaLisp.evaluateBody (plain ev) env last nodes := by
  intro nodes
  induction nodes with
  | nil => exact fun _ => rfl
  | cons node rest ih =>
      intro last
      simp only [evaluateBody, run_bind, ih]
      rfl

@[simp] lemma run_runWith (source : String) (env : Handle) :
    (runWith ev source env).run = ArenaLisp.runWith (plain ev) source env := by
  unfold runWith ArenaLisp.runWith
  cases parse source with
  | error fault => rfl
  | ok nodes => exact run_evaluateBody ev env nodes .unit

@[simp] lemma run_bindParams (frame : Handle) : ∀ (params : List String) (args : List Value),
    (bindParams frame params args).run = ArenaLisp.bindParams frame params args := by
  intro params
  induction params with
  | nil => exact fun _ => rfl
  | cons param params ih =>
      intro args
      cases args with
      | nil => rfl
      | cons arg args =>
          simp only [bindParams, run_bind, run_step, ih args]
          rfl

@[simp] lemma run_openScope (h : Handle) (room : Bool) :
    (openScope h room).run = Run.openScope h room := rfl

@[simp] lemma run_callLambda (name : String) (params : List String) (body : List Node)
    (captured : Option Handle) (args : List Value) (env : Handle) :
    (callLambda s left ev name params body captured args env).run =
      ArenaLisp.callLambda s reclaimFrame left (plain ev) name params body captured args env := by
  unfold callLambda
  by_cases hl : params.length = args.length
  · by_cases hb : body.isEmpty = true
    · rw [callLambda_of_isEmpty hl hb, if_neg (not_not_intro hl), if_pos hb, run_quiet]
    · rw [callLambda_of_frame hl hb, if_neg (not_not_intro hl), if_neg hb]
      simp only [run_bind, run_openScope, run_leaving, inFrame, run_bindParams, run_evaluateBody]
      rfl
  · rw [callLambda_of_length_ne hl, if_pos hl, run_quiet]

/-- Invoking a binding that is not a reference. -/
lemma run_invoke_direct (forwards : Nat) (name : String) {binding : Binding} (args : List Value)
    (env : Handle) (hr : ∀ target, binding ≠ .constant (.reference target)) :
    (invokeWithin s left ev forwards name binding args env).run =
      ArenaLisp.invokeWithin s reclaimFrame left (plain ev) forwards name binding args env := by
  cases binding with
  | builtin b => cases forwards <;> rfl
  | constant v =>
      cases v with
      | reference target => exact absurd rfl (hr target)
      | lambda params body captured =>
          rw [invokeWithin_lambda]
          cases forwards <;> exact run_callLambda s left ev name params body captured args env
      | _ => cases forwards <;> cases args <;> rfl

@[simp] lemma run_invokeWithin : ∀ (forwards : Nat) (name : String) (binding : Binding)
    (args : List Value) (env : Handle), (invokeWithin s left ev forwards name binding args env).run =
      ArenaLisp.invokeWithin s reclaimFrame left (plain ev) forwards name binding args env := by
  intro forwards
  induction forwards with
  | zero =>
      intro name binding args env
      by_cases hr : ∃ target, binding = .constant (.reference target)
      · obtain ⟨target, rfl⟩ := hr
        rfl
      · exact run_invoke_direct s left ev 0 name args env fun target ht => hr ⟨target, ht⟩
  | succ forwards ih =>
      intro name binding args env
      by_cases hr : ∃ target, binding = .constant (.reference target)
      · obtain ⟨target, rfl⟩ := hr
        simp only [invokeWithin, ArenaLisp.invokeWithin, run_bind, run_quiet]
        congr 1
        funext found
        cases found with
        | none => rfl
        | some binding =>
            by_cases ht : target = name
            · simp only [ht, if_true]
              rfl
            · simp only [ht, if_false]
              exact ih target binding args env
      · exact run_invoke_direct s left ev _ name args env fun target ht => hr ⟨target, ht⟩

lemma run_evaluateIf (args : List Node) (env : Handle) :
    (evaluateIf ev args env).run = ArenaLisp.evaluateIf (plain ev) args env := by
  unfold evaluateIf
  split
  · simp only [ArenaLisp.evaluateIf, run_bind]
    congr 1
    funext value
    split_ifs <;> rfl
  · rfl

lemma run_evaluateDefine (args : List Node) (env : Handle) :
    (evaluateDefine ev args env).run = ArenaLisp.evaluateDefine (plain ev) args env := by
  unfold evaluateDefine
  split <;> rfl

lemma run_evaluateLambda (args : List Node) (env : Handle) :
    (evaluateLambda s args env).run = ArenaLisp.evaluateLambda s args env := by
  unfold evaluateLambda
  split
  · rename_i params body
    simp only [ArenaLisp.evaluateLambda]
    cases paramNames params with
    | error fault => rfl
    | ok names =>
        simp only [makeLambda]
        cases s.scoping <;> rfl
  · rfl

@[simp] lemma run_stringArgument (form : String) (args : List Node) (env : Handle) :
    (stringArgument ev form args env).run = ArenaLisp.stringArgument (plain ev) form args env := by
  unfold stringArgument
  split
  · simp only [ArenaLisp.stringArgument, run_bind]
    congr 1
    funext value
    cases value <;> rfl
  · rename_i hargs
    unfold ArenaLisp.stringArgument
    split
    · exact absurd rfl (hargs _)
    · rfl

lemma run_evaluateForm (form : SpecialForm) (args : List Node) (env : Handle) :
    (evaluateForm s ev form args env).run =
      ArenaLisp.evaluateForm s (plain ev) form args env := by
  cases form with
  | conditional => exact run_evaluateIf ev args env
  | define => exact run_evaluateDefine ev args env
  | lambda => exact run_evaluateLambda s args env
  | sequence =>
      cases args with
      | nil => rfl
      | cons node rest => exact run_evaluateBody ev env (node :: rest) .unit
  | eval =>
      simp only [evaluateForm, ArenaLisp.evaluateForm, run_bind, run_stringArgument, run_runWith]
  | inclusion =>
      simp only [evaluateForm, ArenaLisp.evaluateForm, run_bind, run_stringArgument, run_quiet,
        run_runWith, run_pure]

lemma run_evaluateCall (name : String) (args : List Node) (env : Handle) :
    (evaluateCall s left ev name args env).run =
      ArenaLisp.evaluateCall s reclaimFrame left (plain ev) name args env := by
  simp only [evaluateCall, ArenaLisp.evaluateCall, run_bind, run_evaluateAll, run_quiet]
  congr 1
  funext values
  congr 1
  funext found
  cases found with
  | none => rfl
  | some binding =>
      simp only [run_bind, run_quiet, run_invokeWithin]
      rfl

lemma run_evaluateNode (node : Node) (env : Handle) :
    (evaluateNode s left ev node env).run =
      ArenaLisp.evaluateNode s reclaimFrame left (plain ev) node env := by
  match node with
  | .literal _ => rfl
  | .symbol name =>
      simp only [evaluateNode, ArenaLisp.evaluateNode, run_bind, run_quiet]
      congr 1
      funext found
      rcases found with _ | _ | _ <;> rfl
  | .list [] => rfl
  | .list (.symbol name :: args) =>
      simp only [evaluateNode, ArenaLisp.evaluateNode]
      cases s.form? name with
      | none => exact run_evaluateCall s left ev name args env
      | some form => simp only [run_bind, run_quiet, run_evaluateForm]
  | .list (.list _ :: _) => rfl
  | .list (.literal _ :: _) => rfl

end Plain

/-- **Keeping a journal changes nothing**: without the journal, the journalled evaluator is the
evaluator. -/
theorem plain_evaluateWith (s : Settings) (depth : Nat) :
    plain (evaluateWith s depth) = ArenaLisp.evaluateWith s reclaimFrame depth := by
  induction depth with
  | zero => rfl
  | succ depth ih =>
      funext node env
      show (evaluateNode s depth (evaluateWith s depth) node env).run = _
      rw [run_evaluateNode, ih]
      rfl

end Journal

end ArenaLisp
