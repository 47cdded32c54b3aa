import ArenaLisp.Evaluate
import ArenaLisp.Proofs.Closures
import Mathlib.Data.List.Forall2

/-!
# Two runs side by side

Most of what is worth knowing about evaluation compares two runs of the same nodes: with frames
reclaimed and with frames kept, in one arena and in another, before and after.  Each comparison
goes through the evaluator in the same way, form by form, and differs only in what is compared and
in why the *primitive* steps (looking a name up, binding it, making a lambda, applying a builtin,
entering and leaving a frame) keep up the comparison.  So the walk through the evaluator is made
once, here.

* `Coupling` — what is compared: worlds, handles, values and faults, at a *stage*.  A stage records
  what has been agreed on so far, and `passes` says how it may change while nodes are evaluated in
  a given scope; `spills` says what may have become of it when the stack ran out.
* `Coupling.Coupled` — two computations that keep up a comparison, however they end.
* `Coupling.Matches`, `Coupling.MatchesFrom` — two ways of evaluating nodes that agree, anywhere or
  as far as an evaluation in given scopes needs them.
* `Coupling.Rules` — one rule for each primitive step of two evaluators with settings of their own.
  A rule may rely on the nodes at hand being `forms`.
* `Coupling.Laws` — the rules where the settings are the same and any node can be evaluated.
* **`Coupling.Rules.evaluateWith`** — if the primitive steps keep up the comparison, so does
  evaluation, nested to any depth.
-/

namespace ArenaLisp

/-- What two runs are compared by.  `builtins` singles out the builtins that can be met, `forms` the
nodes that can be evaluated in the scopes of two handles. -/
structure Coupling where
  Stage : Type
  worlds : Stage → World → World → Prop
  handles : Stage → Handle → Handle → Prop
  values : Stage → Value → Value → Prop
  faults : Fault → Fault → Prop
  builtins : Builtin → Prop := fun _ => True
  forms : Stage → Handle → Handle → Node → Prop := fun _ _ _ _ => True
  /-- How a stage may change while nodes are evaluated in the scopes of two handles. -/
  passes : Handle → Handle → Stage → Stage → Prop
  passes_refl : ∀ g g' κ, passes g g' κ κ
  passes_trans : ∀ {g g' κ₁ κ₂ κ₃}, passes g g' κ₁ κ₂ → passes g g' κ₂ κ₃ → passes g g' κ₁ κ₃
  handles_passes : ∀ {g g' κ κ' h h'}, passes g g' κ κ' → handles κ h h' → handles κ' h h'
  values_passes : ∀ {g g' κ κ' v v'}, passes g g' κ κ' → values κ v v' → values κ' v v'
  forms_passes : ∀ {g g' κ κ' h h' node}, passes g g' κ κ' → forms κ h h' node →
    forms κ' h h' node := by intros; trivial
  /-- How a stage may have changed when the stack ran out while nodes were evaluated there. -/
  spills : Handle → Handle → Stage → Stage → Prop := fun _ _ _ _ => True
  spills_of_passes : ∀ {g g' κ₁ κ₂ κ₃}, passes g g' κ₁ κ₂ → spills g g' κ₂ κ₃ →
    spills g g' κ₁ κ₃ := by intros; trivial

namespace Coupling

variable (C : Coupling) {α β γ δ : Type}

/-- How a stage may have changed when an evaluation in the scopes of two handles has ended in a
fault. -/
def Breaks (g g' : Handle) (e : Fault) (κ κ' : C.Stage) : Prop :=
  C.passes g g' κ κ' ∨ e = .recursionLimit ∧ C.spills g g' κ κ'

/-- Two outcomes that agree: both are values or both are faults, at a stage that could be passed
to, or that is left over where the stack ran out. -/
inductive Outcomes (g g' : Handle) (κ : C.Stage) (R : C.Stage → α → β → Prop) :
    EStateM.Result Fault World α → EStateM.Result Fault World β → Prop where
  | ok {κ' : C.Stage} {a : α} {b : β} {w w' : World} :
      C.passes g g' κ κ' → C.worlds κ' w w' → R κ' a b → Outcomes g g' κ R (.ok a w) (.ok b w')
  | error {κ' : C.Stage} {e e' : Fault} {w w' : World} :
      C.Breaks g g' e κ κ' → C.worlds κ' w w' → C.faults e e' →
      Outcomes g g' κ R (.error e w) (.error e' w')

/-- Two computations that turn agreeing worlds into agreeing outcomes. -/
def Coupled (g g' : Handle) (κ : C.Stage) (R : C.Stage → α → β → Prop) (x : Run α) (y : Run β) :
    Prop :=
  ∀ w w', C.worlds κ w w' → C.Outcomes g g' κ R (x w) (y w')

/-- Bindings that agree. -/
inductive Bound (κ : C.Stage) : Binding → Binding → Prop where
  | builtin {b : Builtin} : C.builtins b → Bound κ (.builtin b) (.builtin b)
  | constant {v v' : Value} : C.values κ v v' → Bound κ (.constant v) (.constant v')

/-- Results of looking a name up that agree. -/
inductive Found (κ : C.Stage) : Option Binding → Option Binding → Prop where
  | none : Found κ none none
  | some {b b' : Binding} : C.Bound κ b b' → Found κ (some b) (some b')

/-- Two ways of evaluating nodes that agree. -/
def Matches (ev ev' : Evaluation) : Prop :=
  ∀ {κ : C.Stage} {h h' : Handle} {node : Node}, C.forms κ h h' node → C.handles κ h h' →
    C.Coupled h h' κ C.values (ev node h) (ev' node h')

/-- Two ways of evaluating nodes that agree in the scopes of two handles. -/
def MatchesIn (h h' : Handle) (ev ev' : Evaluation) : Prop :=
  ∀ {κ : C.Stage} {node : Node}, C.forms κ h h' node → C.handles κ h h' →
    C.Coupled h h' κ C.values (ev node h) (ev' node h')

/-- Two ways of evaluating nodes that agree wherever an evaluation in the scopes of two handles has
nodes evaluated: in these scopes, and in the frames of the calls that it makes. -/
structure MatchesFrom (h h' : Handle) (ev ev' : Evaluation) : Prop where
  here : C.MatchesIn h h' ev ev'
  frames : ∀ {κ : C.Stage} {w w' : World}, C.handles κ h h' → C.worlds κ w w' →
    C.MatchesIn w.arena.size w'.arena.size ev ev'

variable {C}
variable {g g' h h' : Handle} {κ : C.Stage} {R : C.Stage → α → β → Prop}
  {S : C.Stage → γ → δ → Prop}

lemma Breaks.refl (g g' : Handle) (e : Fault) (κ : C.Stage) : C.Breaks g g' e κ κ :=
  Or.inl (C.passes_refl g g' κ)

lemma Breaks.of_passes {e : Fault} {κ₁ κ₂ κ₃ : C.Stage} (hp : C.passes g g' κ₁ κ₂)
    (h : C.Breaks g g' e κ₂ κ₃) : C.Breaks g g' e κ₁ κ₃ := by
  rcases h with hp' | ⟨he, hs⟩
  · exact Or.inl (C.passes_trans hp hp')
  · exact Or.inr ⟨he, C.spills_of_passes hp hs⟩

lemma Matches.matchesFrom {ev ev' : Evaluation} (hev : C.Matches ev ev') :
    C.MatchesFrom h h' ev ev' where
  here hf hh := hev hf hh
  frames _ _ _ _ hf hh := hev hf hh

/-! ## Composing computations -/

lemma Coupled.pure {a : α} {b : β} (hab : R κ a b) :
    C.Coupled g g' κ R (Pure.pure a) (Pure.pure b) :=
  fun _ _ hw => .ok (C.passes_refl _ _ _) hw hab

lemma Coupled.throw {e e' : Fault} (he : C.faults e e') :
    C.Coupled g g' κ R (MonadExcept.throw e) (MonadExcept.throw e') :=
  fun _ _ hw => .error (.refl _ _ _ _) hw he

lemma Outcomes.weaken {κ₁ κ₂ : C.Stage} {r r'} (hp : C.passes g g' κ₁ κ₂)
    (h : C.Outcomes g g' κ₂ R r r') : C.Outcomes g g' κ₁ R r r' := by
  cases h with
  | ok hp' hw hr => exact .ok (C.passes_trans hp hp') hw hr
  | error hb hw he => exact .error (hb.of_passes hp) hw he

/-- Two computations in sequence: the second ones agree at every stage the first may pass to. -/
lemma Outcomes.bind {x : Run α} {y : Run β} {f : α → Run γ} {f' : β → Run δ} {w w' : World}
    (h : C.Outcomes g g' κ R (x w) (y w'))
    (hf : ∀ κ' a b, C.passes g g' κ κ' → R κ' a b → C.Coupled g g' κ' S (f a) (f' b)) :
    C.Outcomes g g' κ S ((x >>= f) w) ((y >>= f') w') := by
  show C.Outcomes g g' κ S (EStateM.bind x f w) (EStateM.bind y f' w')
  unfold EStateM.bind
  generalize x w = r at h ⊢
  generalize y w' = r' at h ⊢
  cases h with
  | ok hp hw₁ hr => exact (hf _ _ _ hp hr _ _ hw₁).weaken hp
  | error hp hw₁ he => exact .error hp hw₁ he

lemma Coupled.bind {x : Run α} {y : Run β} {f : α → Run γ} {f' : β → Run δ}
    (hx : C.Coupled g g' κ R x y)
    (hf : ∀ κ' a b, C.passes g g' κ κ' → R κ' a b → C.Coupled g g' κ' S (f a) (f' b)) :
    C.Coupled g g' κ S (x >>= f) (y >>= f') :=
  fun w w' hw => (hx w w' hw).bind hf

lemma Outcomes.imp_passes {R' : C.Stage → α → β → Prop} {r r'} (h : C.Outcomes g g' κ R r r')
    (hR : ∀ κ' a b, C.passes g g' κ κ' → R κ' a b → R' κ' a b) : C.Outcomes g g' κ R' r r' := by
  cases h with
  | ok hp hw hr => exact .ok hp hw (hR _ _ _ hp hr)
  | error hp hw he => exact .error hp hw he

lemma Outcomes.imp {R' : C.Stage → α → β → Prop} {r r'} (h : C.Outcomes g g' κ R r r')
    (hR : ∀ κ' a b, R κ' a b → R' κ' a b) : C.Outcomes g g' κ R' r r' :=
  h.imp_passes fun κ' a b _ => hR κ' a b

end Coupling

/-! ## The primitive steps -/

/-- A computation that succeeds hands on to the next one. -/
lemma bind_of_ok {ε σ α β : Type} {x : EStateM ε σ α} {f : α → EStateM ε σ β} {a : α} {s s' : σ}
    (h : x s = .ok a s') : (x >>= f) s = f a s' := by
  show EStateM.bind x f s = _
  rw [EStateM.bind, h]

/-- A computation that fails is the last one. -/
lemma bind_of_error {ε σ α β : Type} {x : EStateM ε σ α} {f : α → EStateM ε σ β} {e : ε}
    {s s' : σ} (h : x s = .error e s') : (x >>= f) s = .error e s' := by
  show EStateM.bind x f s = _
  rw [EStateM.bind, h]

/-- The world with another arena. -/
def World.withArena (w : World) (a : Arena) : World := { w with arena := a }

/-- The world with a scope opened below the scope of a handle. -/
def World.opened (w : World) (h : Handle) : World :=
  (w.withArena (w.arena.child h)).trace .scopes fun _ =>
    "created scope #" ++ toString w.arena.size ++ " (parent #" ++ toString h ++ ")"

@[simp] lemma World.withArena_arena (w : World) (a : Arena) : (w.withArena a).arena = a := rfl

@[simp] lemma World.trace_arena (w : World) (tracer : Tracer) (message : Unit → String) :
    (w.trace tracer message).arena = w.arena := by
  unfold World.trace
  split <;> rfl

@[simp] lemma World.opened_arena (w : World) (h : Handle) :
    (w.opened h).arena = w.arena.child h :=
  World.trace_arena _ _ _

lemma Run.openScope_of_room (h : Handle) {room : Bool} (hroom : room = true) (w : World) :
    Run.openScope h room w = .ok w.arena.size (w.opened h) := by
  subst hroom
  rfl

/-- The scope is there when the stack runs out. -/
lemma Run.openScope_of_cramped (h : Handle) {room : Bool} (hroom : room = false) (w : World) :
    Run.openScope h room w = .error .recursionLimit (w.withArena (w.arena.child h)) := by
  subst hroom
  rfl

lemma Run.lookup_eq (h : Handle) (name : String) (w : World) :
    Run.lookup h name w = Run.ofExcept ((w.arena.lookup h name).mapError .stray) w := rfl

lemma Run.requireLive_eq (h : Handle) (w : World) :
    Run.requireLive h w =
      if (w.arena.scope? h).isNone then .error (.stray .releasedScope) w else .ok () w := by
  show (if (w.arena.scope? h).isNone then (throw (.stray .releasedScope) : Run Unit)
    else pure ()) w = _
  split_ifs <;> rfl

lemma Run.requireLive_of_live {h : Handle} {w : World} (hh : h < w.arena.size) :
    Run.requireLive h w = .ok () w := by
  obtain ⟨sc, hs⟩ := Arena.exists_scope hh
  rw [Run.requireLive_eq, hs]
  rfl

lemma Run.requireLive_of_dead {h : Handle} {w : World} (hh : w.arena.size ≤ h) :
    Run.requireLive h w = .error (.stray .releasedScope) w := by
  rw [Run.requireLive_eq, Arena.scope?_eq_none_iff.mpr hh]
  rfl

lemma Run.define_of_live {h : Handle} {w : World} (hh : h < w.arena.size) (name : String)
    (value : Value) :
    Run.define h name value w = .ok () { w with arena := w.arena.define h name value } :=
  bind_of_ok (Run.requireLive_of_live hh)

lemma Run.define_of_dead {h : Handle} {w : World} (hh : w.arena.size ≤ h) (name : String)
    (value : Value) : Run.define h name value w = .error (.stray .releasedScope) w :=
  bind_of_error (Run.requireLive_of_dead hh)

lemma Run.capture_of_live {h : Handle} {w : World} (hh : h < w.arena.size) :
    Run.capture h w = .ok () { w with arena := w.arena.capture h } :=
  bind_of_ok (Run.requireLive_of_live hh)

lemma Run.capture_of_dead {h : Handle} {w : World} (hh : w.arena.size ≤ h) :
    Run.capture h w = .error (.stray .releasedScope) w :=
  bind_of_error (Run.requireLive_of_dead hh)

/-- What a lambda form does once its parameters have been read. -/
def makeLambda (s : Settings) (params : List String) (body : List Node) (env : Handle) :
    Run Value :=
  match s.scoping with
  | .lexical => do
    Run.capture env
    return .lambda params body (some env)
  | .dynamic => pure (.lambda params body none)

lemma evaluateLambda_of_ok {s : Settings} {params : List Node} {names : List String}
    (h : paramNames params = .ok names) (body : List Node) (env : Handle) :
    evaluateLambda s (.list params :: body) env = makeLambda s names body env := by
  rw [evaluateLambda, h]
  rfl

lemma evaluateLambda_of_error {s : Settings} {params : List Node} {fault : EvalFault}
    (h : paramNames params = .error fault) (body : List Node) (env : Handle) :
    evaluateLambda s (.list params :: body) env = throw (.eval fault) := by
  rw [evaluateLambda, h]

section Call

variable {s : Settings} {leave : Leave} {left : Nat} {ev : Evaluation} {name : String}
  {params : List String} {body : List Node} {captured : Option Handle} {args : List Value}
  {env : Handle}

/-- The computation of a call inside its frame. -/
def inFrame (ev : Evaluation) (params : List String) (body : List Node) (args : List Value)
    (frame : Handle) : Run Value := do
  bindParams frame params args
  evaluateBody ev frame .unit body

lemma callLambda_of_length_ne (hl : params.length ≠ args.length) :
    callLambda s leave left ev name params body captured args env =
      throw (.arity { expected := params.length, actual := args.length, name := some name }) := by
  unfold callLambda
  rw [if_pos hl]
  rfl

lemma callLambda_of_isEmpty (hl : params.length = args.length) (hb : body.isEmpty = true) :
    callLambda s leave left ev name params body captured args env = throw (.eval (.emptyBody name)) := by
  unfold callLambda
  rw [if_neg (not_not_intro hl), if_pos hb]
  rfl

lemma callLambda_of_frame (hl : params.length = args.length) (hb : body.isEmpty ≠ true) :
    callLambda s leave left ev name params body captured args env = (do
      let frame ← Run.openScope (s.frameParent captured env) (s.stack.trace ≤ left)
      Run.guarded (leave s frame) (inFrame ev params body args frame)) := by
  unfold callLambda
  rw [if_neg (not_not_intro hl), if_neg hb]
  rfl

/-- A call that comes about: the frame is left on every way out. -/
lemma callLambda_of_room (hl : params.length = args.length) (hb : body.isEmpty ≠ true)
    (hroom : s.stack.trace ≤ left) (w : World) :
    callLambda s leave left ev name params body captured args env w =
      Run.guarded (leave s w.arena.size) (inFrame ev params body args w.arena.size)
        (w.opened (s.frameParent captured env)) := by
  rw [callLambda_of_frame hl hb]
  exact bind_of_ok (Run.openScope_of_room _ (decide_eq_true hroom) w)

/-- A call for which the stack is too small: the frame stays. -/
lemma callLambda_of_cramped (hl : params.length = args.length) (hb : body.isEmpty ≠ true)
    (hcramped : left < s.stack.trace) (w : World) :
    callLambda s leave left ev name params body captured args env w =
      .error .recursionLimit (w.withArena (w.arena.child (s.frameParent captured env))) := by
  rw [callLambda_of_frame hl hb]
  exact bind_of_error (Run.openScope_of_cramped _ (decide_eq_false (Nat.not_le.mpr hcramped)) w)

/-! The equations of invoking a binding, one for each thing a name can stand for. -/

lemma invokeWithin_builtin (n : Nat) (b : Builtin) :
    invokeWithin s leave left ev n name (.builtin b) args env = b.apply env args := by
  cases n <;> rfl

lemma invokeWithin_lambda (n : Nat) :
    invokeWithin s leave left ev n name (.constant (.lambda params body captured)) args env =
      callLambda s leave left ev name params body captured args env := by
  cases n <;> rfl

lemma invokeWithin_plain (n : Nat) {v : Value} (hl : v.kind ≠ .lambda)
    (hr : v.kind ≠ .reference) :
    invokeWithin s leave left ev n name (.constant v) args env =
      if args.isEmpty then pure v
      else throw (.arity { expected := 0, actual := args.length, name := some name }) := by
  cases v with
  | lambda => exact absurd rfl hl
  | reference => exact absurd rfl hr
  | _ => cases n <;> rfl

end Call

/-- Two frames that were opened at a stage `κ`, and that are at hand at a stage `κ₁`, can be left.
Whatever happened in them, this leads to a stage that could be passed to from `κ`, and what was
computed survives; and if the stack ran out, to a stage that it could have left over from `κ`. -/
structure Coupling.CanLeave (C : Coupling) (leave leave' : World → World) (g g' : Handle)
    (κ κ₁ : C.Stage) : Prop where
  passed : ∀ {κ₂ w w'}, C.passes g g' κ₁ κ₂ → C.worlds κ₂ w w' →
    ∃ κ₃, (∀ h h', C.passes h h' κ κ₃) ∧ C.worlds κ₃ (leave w) (leave' w') ∧
      ∀ v v', C.values κ₂ v v' → C.values κ₃ v v'
  spilled : ∀ {κ₂ w w'}, C.spills g g' κ₁ κ₂ → C.worlds κ₂ w w' →
    ∃ κ₃, (∀ h h', C.spills h h' κ κ₃) ∧ C.worlds κ₃ (leave w) (leave' w')

/-- Frames are left in the same way after a value and after a fault. -/
lemma Coupling.Outcomes.guarded {C : Coupling} {leave leave' : World → World} {f f' g g' : Handle}
    {κ κ₁ : C.Stage} {x y : Run Value} {w w' : World}
    (h : C.Outcomes f f' κ₁ C.values (x w) (y w')) (hleave : C.CanLeave leave leave' f f' κ κ₁) :
    C.Outcomes g g' κ C.values (Run.guarded leave x w) (Run.guarded leave' y w') := by
  unfold Run.guarded
  generalize x w = r at h ⊢
  generalize y w' = r' at h ⊢
  cases h with
  | ok hp hw hv =>
      obtain ⟨κ₃, hp₃, hw₃, hv₃⟩ := hleave.passed hp hw
      exact .ok (hp₃ g g') hw₃ (hv₃ _ _ hv)
  | error hb hw he =>
      rcases hb with hp | ⟨hlimit, hs⟩
      · obtain ⟨κ₃, hp₃, hw₃, -⟩ := hleave.passed hp hw
        exact .error (Or.inl (hp₃ g g')) hw₃ he
      · obtain ⟨κ₃, hs₃, hw₃⟩ := hleave.spilled hs hw
        exact .error (Or.inr ⟨hlimit, hs₃ g g'⟩) hw₃ he

/-- The primitive steps of two evaluators keep up a comparison.  Those that touch the scope at hand
do so for that scope; all others whatever the scope at hand is, and so does a whole call. -/
structure Coupling.Rules (C : Coupling) (s s' : Settings) (leave leave' : Leave) : Prop where
  /-- The special forms are the same. -/
  special : ∀ name, s'.form? name = s.form? name
  stack : s'.stack = s.stack
  unit : ∀ κ, C.values κ .unit .unit
  literal : ∀ κ l, C.values κ (.ofLiteral l) (.ofLiteral l)
  /-- Values that agree look alike. -/
  shape : ∀ {κ v v'}, C.values κ v v' → v'.bare = v.bare
  head : ∀ {κ h h' name args}, s.form? name = none →
    C.forms κ h h' (.list (.symbol name :: args)) → C.forms κ h h' (.symbol name)
  /-- The nodes inside a lambda form are not evaluated where it stands. -/
  items : ∀ {κ h h' name args}, s.form? name ≠ some .lambda →
    C.forms κ h h' (.list (.symbol name :: args)) → ∀ node ∈ args, C.forms κ h h' node
  parsed : ∀ {κ h h' source nodes}, (s.hasEval = true ∨ s.hasInclude = true) →
    parse source = .ok nodes → ∀ node ∈ nodes, C.forms κ h h' node
  fault : ∀ e, C.faults e e
  notString : ∀ {κ v v'} form, C.values κ v v' →
    C.faults (.eval (.formNotString form v)) (.eval (.formNotString form v'))
  log : ∀ {g g' κ} tracer message,
    C.Coupled g g' κ (fun _ _ _ => True) (Run.log tracer message) (Run.log tracer message)
  source : ∀ {g g' κ} path, s.hasInclude = true →
    C.Coupled g g' κ (fun _ a b => a = b) (readSource path) (readSource path)
  /-- What a reference forwards to can be looked up wherever the reference is called. -/
  referred : ∀ {κ h h' name}, C.values κ (.reference name) (.reference name) →
    C.forms κ h h' (.symbol name)
  lookup : ∀ {g g' κ h h' name}, C.forms κ h h' (.symbol name) → C.handles κ h h' →
    C.Coupled g g' κ (fun κ' found found' => C.Found κ' found found' ∧
        ∀ b, found = some (.builtin b) → C.values κ' (.reference name) (.reference name))
      (Run.lookup h name) (Run.lookup h' name)
  define : ∀ {κ h h' v v' head name rest}, s.form? head = some .define →
    C.forms κ h h' (.list (.symbol head :: .symbol name :: rest)) → C.handles κ h h' →
    C.values κ v v' →
    C.Coupled h h' κ (fun _ _ _ => True) (Run.define h name v) (Run.define h' name v')
  make : ∀ {κ h h' head params names body}, s.form? head = some .lambda →
    C.forms κ h h' (.list (.symbol head :: .list params :: body)) →
    paramNames params = .ok names → C.handles κ h h' →
    C.Coupled h h' κ C.values (makeLambda s names body h) (makeLambda s' names body h')
  apply : ∀ {g g' κ h h' b args args'}, C.builtins b → C.handles κ h h' →
    List.Forall₂ (C.values κ) args args' →
    C.Coupled g g' κ C.values (b.apply h args) (b.apply h' args')
  /-- A frame is opened and filled at a stage of its own, and then the body can be evaluated in it.
  Whatever happens there, the frame can be left. -/
  call : ∀ {κ h h' params body scope scope' args args' w w'},
    C.values κ (.lambda params body scope) (.lambda params body scope') → C.handles κ h h' →
    List.Forall₂ (C.values κ) args args' → params.length = args.length → C.worlds κ w w' →
    ∃ κ₁, C.handles κ₁ w.arena.size w'.arena.size ∧
      C.Outcomes w.arena.size w'.arena.size κ₁
        (fun κ₂ _ _ => ∀ node ∈ body, C.forms κ₂ w.arena.size w'.arena.size node)
        (bindParams w.arena.size params args (w.opened (s.frameParent scope h)))
        (bindParams w'.arena.size params args' (w'.opened (s'.frameParent scope' h'))) ∧
      C.CanLeave (leave s w.arena.size) (leave' s' w'.arena.size) w.arena.size w'.arena.size κ κ₁
  /-- A frame for which the stack is too small stays. -/
  cramped : ∀ {κ h h' params body scope scope' w w'}, 0 < s.stack.trace →
    C.values κ (.lambda params body scope) (.lambda params body scope') → C.handles κ h h' →
    C.worlds κ w w' →
    ∃ κ₁, (∀ g g', C.spills g g' κ κ₁) ∧
      C.worlds κ₁ (w.withArena (w.arena.child (s.frameParent scope h)))
        (w'.withArena (w'.arena.child (s'.frameParent scope' h')))

/-- Files can be included only if the settings grant it. -/
lemma Settings.hasInclude_of_form? {s : Settings} {name : String}
    (h : s.form? name = some .inclusion) : s.hasInclude = true := by
  unfold Settings.form? at h
  split at h <;> simp_all

/-- Sources can be evaluated only if the settings grant it. -/
lemma Settings.hasEval_of_form? {s : Settings} {name : String}
    (h : s.form? name = some .eval) : s.hasEval = true := by
  unfold Settings.form? at h
  split at h <;> simp_all

namespace Coupling.Rules

variable {C : Coupling} {s s' : Settings} {leave leave' : Leave} {ev ev' : Evaluation}
  {g g' h h' : Handle} {κ : C.Stage} {left : Nat}

/-! ## Values that look alike -/

lemma isYes_eq (L : C.Rules s s' leave leave') {v v' : Value} (hv : C.values κ v v') :
    v'.isYes = v.isYes := by
  rw [← Value.isYes_rescope (fun _ => none) v', ← Value.isYes_rescope (fun _ => none) v]
  exact congrArg Value.isYes (L.shape hv)

lemma kind_eq (L : C.Rules s s' leave leave') {v v' : Value} (hv : C.values κ v v') :
    v'.kind = v.kind := by
  rw [← Value.kind_rescope (fun _ => none) v', ← Value.kind_rescope (fun _ => none) v]
  exact congrArg Value.kind (L.shape hv)

lemma describe_eq (L : C.Rules s s' leave leave') {v v' : Value} (hv : C.values κ v v') :
    v'.describe = v.describe := by
  rw [← Value.describe_rescope (fun _ => none) v', ← Value.describe_rescope (fun _ => none) v]
  exact congrArg Value.describe (L.shape hv)

lemma string_eq (L : C.Rules s s' leave leave') {text : String} {v' : Value}
    (hv : C.values κ (.string text) v') : v' = .string text := by
  have hs := L.shape hv
  cases v' <;> simp [Value.bare] at hs
  rw [hs]

lemma reference_eq (L : C.Rules s s' leave leave') {name : String} {v' : Value}
    (hv : C.values κ (.reference name) v') : v' = .reference name := by
  have hs := L.shape hv
  cases v' <;> simp [Value.bare] at hs
  rw [hs]

lemma lambda_eq (L : C.Rules s s' leave leave') {params : List String} {body : List Node}
    {scope : Option Handle} {v' : Value} (hv : C.values κ (.lambda params body scope) v') :
    ∃ scope', v' = .lambda params body scope' := by
  have hs := L.shape hv
  cases v' <;> simp [Value.bare] at hs
  exact ⟨_, by rw [hs.1, hs.2]⟩

/-! ## Sequences of nodes -/

lemma evaluateAll (hev : C.MatchesIn h h' ev ev') :
    ∀ {nodes : List Node} {κ : C.Stage}, (∀ node ∈ nodes, C.forms κ h h' node) →
      C.handles κ h h' → C.Coupled h h' κ (fun κ' => List.Forall₂ (C.values κ'))
        (evaluateAll ev h nodes) (evaluateAll ev' h' nodes) := by
  intro nodes
  induction nodes with
  | nil => exact fun _ _ => .pure .nil
  | cons node rest ih =>
      intro κ hf hh
      refine (hev (hf node (by simp)) hh).bind fun κ₁ v v' hp hv => ?_
      refine (ih (fun n hn => C.forms_passes hp (hf n (by simp [hn])))
        (C.handles_passes hp hh)).bind fun κ₂ vs vs' hp₂ hvs => ?_
      exact .pure (.cons (C.values_passes hp₂ hv) hvs)

lemma evaluateBody (hev : C.MatchesIn h h' ev ev') :
    ∀ {nodes : List Node} {κ : C.Stage} {last last' : Value},
      (∀ node ∈ nodes, C.forms κ h h' node) → C.handles κ h h' → C.values κ last last' →
      C.Coupled h h' κ C.values (evaluateBody ev h last nodes)
        (evaluateBody ev' h' last' nodes) := by
  intro nodes
  induction nodes with
  | nil => exact fun _ _ hl => .pure hl
  | cons node rest ih =>
      intro κ last last' hf hh _
      refine (hev (hf node (by simp)) hh).bind fun κ₁ v v' hp hv => ?_
      exact ih (fun n hn => C.forms_passes hp (hf n (by simp [hn]))) (C.handles_passes hp hh) hv

lemma runWith_of_matchesIn (L : C.Rules s s' leave leave') (hev : C.MatchesIn h h' ev ev')
    {source : String}
    (hf : ∀ nodes, parse source = .ok nodes → ∀ node ∈ nodes, C.forms κ h h' node)
    (hh : C.handles κ h h') :
    C.Coupled h h' κ C.values (runWith ev source h) (runWith ev' source h') := by
  unfold ArenaLisp.runWith
  cases hp : parse source with
  | error fault => exact .throw (L.fault _)
  | ok nodes => exact Rules.evaluateBody hev (hf nodes hp) hh (L.unit κ)

lemma runWith (L : C.Rules s s' leave leave') (hev : C.Matches ev ev') {source : String}
    (hf : ∀ nodes, parse source = .ok nodes → ∀ node ∈ nodes, C.forms κ h h' node)
    (hh : C.handles κ h h') :
    C.Coupled h h' κ C.values (runWith ev source h) (runWith ev' source h') :=
  L.runWith_of_matchesIn hev.matchesFrom.here hf hh

/-! ## Calls -/

/-- A call: the frame is opened, the body evaluated in it, and the frame left on every way out. -/
lemma callLambda (L : C.Rules s s' leave leave') (hev : C.MatchesFrom h h' ev ev') (name : String)
    {params : List String} {body : List Node} {scope scope' : Option Handle}
    {args args' : List Value} (hh : C.handles κ h h')
    (hc : C.values κ (.lambda params body scope) (.lambda params body scope'))
    (ha : List.Forall₂ (C.values κ) args args') :
    C.Coupled g g' κ C.values (callLambda s leave left ev name params body scope args h)
      (callLambda s' leave' left ev' name params body scope' args' h') := by
  have hlen := ha.length_eq
  by_cases hl : params.length = args.length
  · by_cases hb : body.isEmpty = true
    · rw [callLambda_of_isEmpty hl hb, callLambda_of_isEmpty (hl.trans hlen) hb]
      exact .throw (L.fault _)
    · intro w w' hw
      by_cases hroom : s.stack.trace ≤ left
      · rw [callLambda_of_room hl hb hroom,
          callLambda_of_room (hl.trans hlen) hb (L.stack ▸ hroom)]
        obtain ⟨κ₁, hframe, hbind, hleave⟩ := L.call hc hh ha hl hw
        have hrun : C.Outcomes w.arena.size w'.arena.size κ₁ C.values
            (inFrame ev params body args w.arena.size (w.opened (s.frameParent scope h)))
            (inFrame ev' params body args' w'.arena.size (w'.opened (s'.frameParent scope' h'))) :=
          hbind.bind fun κ₂ _ _ hp hforms =>
            Rules.evaluateBody (hev.frames hh hw) hforms (C.handles_passes hp hframe) (L.unit κ₂)
        exact hrun.guarded hleave
      · have hcramped : left < s.stack.trace := Nat.not_le.mp hroom
        rw [callLambda_of_cramped hl hb hcramped,
          callLambda_of_cramped (hl.trans hlen) hb (L.stack ▸ hcramped)]
        obtain ⟨κ₁, hs, hw₁⟩ := L.cramped (Nat.zero_lt_of_lt hcramped) hc hh hw
        exact .error (Or.inr ⟨rfl, hs g g'⟩) hw₁ (L.fault _)
  · rw [callLambda_of_length_ne hl, callLambda_of_length_ne (hlen ▸ hl), hlen]
    exact .throw (L.fault _)

/-- Invoking a binding that is not a reference. -/
lemma invoke_direct (L : C.Rules s s' leave leave') (hev : C.MatchesFrom h h' ev ev')
    (hh : C.handles κ h h') {args args' : List Value} (ha : List.Forall₂ (C.values κ) args args')
    (forwards : Nat) (name : String) {binding binding' : Binding}
    (hb : C.Bound κ binding binding')
    (hr : ∀ target, binding ≠ .constant (.reference target)) :
    C.Coupled g g' κ C.values (invokeWithin s leave left ev forwards name binding args h)
      (invokeWithin s' leave' left ev' forwards name binding' args' h') := by
  cases hb with
  | builtin hb =>
      rw [invokeWithin_builtin, invokeWithin_builtin]
      exact L.apply hb hh ha
  | @constant v v' hv =>
      by_cases hl : v.kind = .lambda
      · cases v <;> simp [Value.kind] at hl
        obtain ⟨scope', rfl⟩ := L.lambda_eq hv
        rw [invokeWithin_lambda, invokeWithin_lambda]
        exact L.callLambda hev name hh hv ha
      · have hk : v.kind ≠ .reference := by
          intro hk
          cases v <;> simp [Value.kind] at hk
          exact hr _ rfl
        rw [invokeWithin_plain _ hl hk,
          invokeWithin_plain _ (L.kind_eq hv ▸ hl) (L.kind_eq hv ▸ hk)]
        cases ha with
        | nil => exact .pure hv
        | cons _ hrest =>
            simp only [List.isEmpty_cons, List.length_cons, hrest.length_eq]
            exact .throw (L.fault _)

/-- Invoking a binding, through any number of references. -/
lemma invokeWithin (L : C.Rules s s' leave leave') (hev : C.MatchesFrom h h' ev ev') :
    ∀ {forwards : Nat} {κ : C.Stage} {name : String} {binding binding' : Binding}
      {args args' : List Value}, C.handles κ h h' → List.Forall₂ (C.values κ) args args' →
      C.Bound κ binding binding' →
      C.Coupled g g' κ C.values (invokeWithin s leave left ev forwards name binding args h)
        (invokeWithin s' leave' left ev' forwards name binding' args' h') := by
  intro forwards
  induction forwards with
  | zero =>
      intro κ name binding binding' args args' hh ha hb
      by_cases hr : ∃ target, binding = .constant (.reference target)
      · obtain ⟨target, rfl⟩ := hr
        cases hb with
        | constant hv =>
            rw [L.reference_eq hv]
            exact .throw (L.fault _)
      · exact L.invoke_direct hev hh ha 0 name hb fun target ht => hr ⟨target, ht⟩
  | succ forwards ih =>
      intro κ name binding binding' args args' hh ha hb
      by_cases hr : ∃ target, binding = .constant (.reference target)
      · obtain ⟨target, rfl⟩ := hr
        cases hb with
        | @constant _ v' hv =>
            obtain rfl : v' = .reference target := L.reference_eq hv
            refine (L.lookup (L.referred hv) hh).bind fun κ₁ found found' hp hfound => ?_
            cases hfound.1 with
            | none => exact .throw (L.fault _)
            | some hbound =>
                by_cases ht : target = name
                · simp only [ht, if_true]
                  exact .throw (L.fault _)
                · simp only [ht, if_false]
                  exact ih (C.handles_passes hp hh) (ha.imp fun _ _ => C.values_passes hp) hbound
      · exact L.invoke_direct hev hh ha _ name hb fun target ht => hr ⟨target, ht⟩

/-! ## Special forms -/

lemma evaluateIf (L : C.Rules s s' leave leave') (hev : C.MatchesIn h h' ev ev') {args : List Node}
    (hf : ∀ node ∈ args, C.forms κ h h' node) (hh : C.handles κ h h') :
    C.Coupled h h' κ C.values (evaluateIf ev args h) (evaluateIf ev' args h') := by
  match args with
  | [test, consequent, alternative] =>
      refine (hev (hf test (by simp)) hh).bind fun κ₁ v v' hp hv => ?_
      rw [L.isYes_eq hv]
      by_cases hy : v.isYes = true
      · simp only [hy, if_true]
        exact hev (C.forms_passes hp (hf consequent (by simp))) (C.handles_passes hp hh)
      · simp only [hy]
        exact hev (C.forms_passes hp (hf alternative (by simp))) (C.handles_passes hp hh)
  | [] => exact .throw (L.fault _)
  | [_] => exact .throw (L.fault _)
  | [_, _] => exact .throw (L.fault _)
  | _ :: _ :: _ :: _ :: _ => exact .throw (L.fault _)

lemma evaluateDefine (L : C.Rules s s' leave leave') (hev : C.MatchesIn h h' ev ev') {head : String}
    {args : List Node} (hd : s.form? head = some .define)
    (hf : C.forms κ h h' (.list (.symbol head :: args))) (hh : C.handles κ h h') :
    C.Coupled h h' κ C.values (evaluateDefine ev args h) (evaluateDefine ev' args h') := by
  have hargs := L.items (by rw [hd]; simp) hf
  match args with
  | [] => exact .throw (L.fault _)
  | [_] => exact .throw (L.fault _)
  | .symbol name :: expr :: _ =>
      refine (hev (hargs expr (by simp)) hh).bind fun κ₁ v v' hp hv => ?_
      rw [L.describe_eq hv]
      refine (L.log _ _).bind fun κ₂ _ _ hp₂ _ => ?_
      have hp' := C.passes_trans hp hp₂
      refine (L.define hd (C.forms_passes hp' hf) (C.handles_passes hp' hh)
        (C.values_passes hp₂ hv)).bind fun κ₃ _ _ _ _ => ?_
      exact .pure (L.unit κ₃)
  | .list _ :: _ :: _ => exact .pure (L.unit κ)
  | .literal _ :: _ :: _ => exact .pure (L.unit κ)

lemma evaluateLambda (L : C.Rules s s' leave leave') {head : String} {args : List Node}
    (hd : s.form? head = some .lambda) (hf : C.forms κ h h' (.list (.symbol head :: args)))
    (hh : C.handles κ h h') :
    C.Coupled h h' κ C.values (evaluateLambda s args h) (evaluateLambda s' args h') := by
  match args with
  | [] => exact .throw (L.fault _)
  | .list params :: body =>
      cases hp : paramNames params with
      | error fault =>
          rw [evaluateLambda_of_error hp, evaluateLambda_of_error hp]
          exact .throw (L.fault _)
      | ok names =>
          rw [evaluateLambda_of_ok hp, evaluateLambda_of_ok hp]
          exact L.make hd hf hp hh
  | .symbol _ :: _ => exact .throw (L.fault _)
  | .literal _ :: _ => exact .throw (L.fault _)

lemma stringArgument (L : C.Rules s s' leave leave') (hev : C.MatchesIn h h' ev ev') (form : String)
    {args : List Node} (hf : ∀ node ∈ args, C.forms κ h h' node) (hh : C.handles κ h h') :
    C.Coupled h h' κ (fun _ a b => a = b) (stringArgument ev form args h)
      (stringArgument ev' form args h') := by
  match args with
  | [arg] =>
      refine (hev (hf arg (by simp)) hh).bind fun κ₁ v v' hp hv => ?_
      by_cases hs : ∃ text, v = .string text
      · obtain ⟨text, rfl⟩ := hs
        rw [L.string_eq hv]
        exact .pure rfl
      · have hk := L.kind_eq hv
        cases v <;> cases v' <;> simp [Value.kind] at hk hs <;>
          exact .throw (L.notString form hv)
  | [] => exact .throw (L.fault _)
  | _ :: _ :: _ => exact .throw (L.fault _)

lemma evaluateForm (L : C.Rules s s' leave leave') (hev : C.MatchesIn h h' ev ev') {head : String}
    {form : SpecialForm} {args : List Node} (hd : s.form? head = some form)
    (hf : C.forms κ h h' (.list (.symbol head :: args))) (hh : C.handles κ h h') :
    C.Coupled h h' κ C.values (evaluateForm s ev form args h)
      (evaluateForm s' ev' form args h') := by
  cases form with
  | conditional => exact L.evaluateIf hev (L.items (by rw [hd]; simp) hf) hh
  | define => exact L.evaluateDefine hev hd hf hh
  | lambda => exact L.evaluateLambda hd hf hh
  | sequence =>
      have hargs := L.items (by rw [hd]; simp) hf
      cases args with
      | nil => exact .throw (L.fault _)
      | cons node rest => exact Rules.evaluateBody hev hargs hh (L.unit κ)
  | eval =>
      have hargs := L.items (by rw [hd]; simp) hf
      refine (L.stringArgument hev "eval" hargs hh).bind fun κ₁ source source' hp heq => ?_
      subst heq
      exact L.runWith_of_matchesIn hev (fun _ => L.parsed (Or.inl (Settings.hasEval_of_form? hd)))
        (C.handles_passes hp hh)
  | inclusion =>
      have hinclude := Settings.hasInclude_of_form? hd
      have hargs := L.items (by rw [hd]; simp) hf
      refine (L.stringArgument hev "include" hargs hh).bind fun κ₁ path path' hp heq => ?_
      subst heq
      refine (L.log _ _).bind fun κ₂ _ _ hp₂ _ => ?_
      refine (L.source path hinclude).bind fun κ₃ source source' hp₃ heq => ?_
      subst heq
      have hp' := C.passes_trans (C.passes_trans hp hp₂) hp₃
      refine (L.runWith_of_matchesIn hev (fun _ => L.parsed (Or.inr hinclude))
        (C.handles_passes hp' hh)).bind fun κ₄ _ _ _ _ => ?_
      exact .pure (L.unit κ₄)

/-! ## Nodes -/

lemma evaluateCall (L : C.Rules s s' leave leave') (hev : C.MatchesFrom h h' ev ev') {name : String}
    {args : List Node} (hd : s.form? name = none)
    (hf : C.forms κ h h' (.list (.symbol name :: args))) (hh : C.handles κ h h') :
    C.Coupled h h' κ C.values (evaluateCall s leave left ev name args h)
      (evaluateCall s' leave' left ev' name args h') := by
  have hargs := L.items (by rw [hd]; simp) hf
  refine (Rules.evaluateAll hev.here hargs hh).bind fun κ₁ vs vs' hp hvs => ?_
  refine (L.lookup (C.forms_passes hp (L.head hd hf)) (C.handles_passes hp hh)).bind
    fun κ₂ found found' hp₂ hfound => ?_
  cases hfound.1 with
  | none => exact .throw (L.fault _)
  | some hb =>
      rw [hvs.length_eq]
      refine (L.log _ _).bind fun κ₃ _ _ hp₃ _ => ?_
      have hp' := C.passes_trans hp₂ hp₃
      unfold invokeWith
      rw [L.stack]
      refine L.invokeWithin hev (C.handles_passes (C.passes_trans hp hp') hh)
        (hvs.imp fun _ _ => C.values_passes hp') ?_
      cases hb with
      | builtin hb => exact .builtin hb
      | constant hv => exact .constant (C.values_passes hp₃ hv)

lemma evaluateNode (L : C.Rules s s' leave leave') (hev : C.MatchesFrom h h' ev ev') :
    C.MatchesIn h h' (evaluateNode s leave left ev) (evaluateNode s' leave' left ev') := by
  intro κ node hf hh
  match node with
  | .literal value => exact .pure (L.literal κ value)
  | .symbol name =>
      refine (L.lookup hf hh).bind fun κ₁ found found' hp hfound => ?_
      cases hfound.1 with
      | none => exact .throw (L.fault _)
      | some hb =>
          cases hb with
          | builtin hb => exact .pure (hfound.2 _ rfl)
          | constant hv => exact .pure hv
  | .list [] => exact .pure (L.unit κ)
  | .list (.symbol name :: args) =>
      simp only [ArenaLisp.evaluateNode, L.special]
      cases hform : s.form? name with
      | none => exact L.evaluateCall hev hform hf hh
      | some form =>
          refine (L.log _ _).bind fun κ₁ _ _ hp _ => ?_
          exact L.evaluateForm hev.here hform (C.forms_passes hp hf) (C.handles_passes hp hh)
  | .list (.list _ :: _) => exact .throw (L.fault _)
  | .list (.literal _ :: _) => exact .throw (L.fault _)

/-- **Evaluation keeps up every comparison that its primitive steps keep up**, whatever the bound on
nesting.  The induction is on the bound: one more level is one more use of `evaluateNode`. -/
theorem evaluateWith (L : C.Rules s s' leave leave') (depth : Nat) :
    C.Matches (evaluateWith s leave depth) (evaluateWith s' leave' depth) := by
  induction depth with
  | zero => exact fun _ _ => .throw (L.fault _)
  | succ depth ih => exact fun hf hh => L.evaluateNode ih.matchesFrom hf hh

end Coupling.Rules

/-! ## The same settings, any node -/

/-- The primitive steps keep up a comparison of two evaluators with the same settings, whatever
nodes they meet. -/
structure Coupling.Laws (C : Coupling) (s : Settings) (leave leave' : Leave) : Prop where
  forms : ∀ κ h h' node, C.forms κ h h' node
  unit : ∀ κ, C.values κ .unit .unit
  literal : ∀ κ l, C.values κ (.ofLiteral l) (.ofLiteral l)
  reference : ∀ κ name, C.values κ (.reference name) (.reference name)
  /-- Values that agree look alike. -/
  shape : ∀ {κ v v'}, C.values κ v v' → v'.bare = v.bare
  /-- Lambdas that agree open their frames below scopes that agree. -/
  callee : ∀ {κ params body scope scope' h h'},
    C.values κ (.lambda params body scope) (.lambda params body scope') → C.handles κ h h' →
      C.handles κ (s.frameParent scope h) (s.frameParent scope' h')
  fault : ∀ e, C.faults e e
  notString : ∀ {κ v v'} form, C.values κ v v' →
    C.faults (.eval (.formNotString form v)) (.eval (.formNotString form v'))
  log : ∀ {g g' κ} tracer message,
    C.Coupled g g' κ (fun _ _ _ => True) (Run.log tracer message) (Run.log tracer message)
  source : ∀ {g g' κ} path, s.hasInclude = true →
    C.Coupled g g' κ (fun _ a b => a = b) (readSource path) (readSource path)
  lookup : ∀ {g g' κ h h'} name, C.handles κ h h' →
    C.Coupled g g' κ C.Found (Run.lookup h name) (Run.lookup h' name)
  define : ∀ {κ h h' v v'} name, C.handles κ h h' → C.values κ v v' →
    C.Coupled h h' κ (fun _ _ _ => True) (Run.define h name v) (Run.define h' name v')
  make : ∀ {κ h h'} params body, C.handles κ h h' →
    C.Coupled h h' κ C.values (makeLambda s params body h) (makeLambda s params body h')
  apply : ∀ {g g' κ h h' b args args'}, C.builtins b → C.handles κ h h' →
    List.Forall₂ (C.values κ) args args' →
    C.Coupled g g' κ C.values (b.apply h args) (b.apply h' args')
  /-- A frame is opened at a stage of its own; whatever happens in it, it can be left. -/
  call : ∀ {κ h h' w w'}, C.handles κ h h' → C.worlds κ w w' →
    ∃ κ₁, C.worlds κ₁ (w.opened h) (w'.opened h') ∧
      C.handles κ₁ w.arena.size w'.arena.size ∧
      (∀ v v', C.values κ v v' → C.values κ₁ v v') ∧
      C.CanLeave (leave s w.arena.size) (leave' s w'.arena.size) w.arena.size w'.arena.size κ κ₁
  /-- A frame for which the stack is too small stays. -/
  cramped : ∀ {κ h h' w w'}, 0 < s.stack.trace → C.handles κ h h' → C.worlds κ w w' →
    ∃ κ₁, (∀ g g', C.spills g g' κ κ₁) ∧
      C.worlds κ₁ (w.withArena (w.arena.child h)) (w'.withArena (w'.arena.child h'))

namespace Coupling.Laws

variable {C : Coupling} {s : Settings} {leave leave' : Leave} {ev ev' : Evaluation}
  {g g' h h' : Handle} {κ : C.Stage}

lemma bindParams (L : C.Laws s leave leave') :
    ∀ {params : List String} {args args' : List Value} {κ : C.Stage}, C.handles κ h h' →
      List.Forall₂ (C.values κ) args args' →
      C.Coupled h h' κ (fun _ _ _ => True) (bindParams h params args)
        (bindParams h' params args') := by
  intro params
  induction params with
  | nil => exact fun _ _ => .pure trivial
  | cons param params ih =>
      intro args args' κ hh ha
      cases ha with
      | nil => exact .pure trivial
      | cons hv hvs =>
          refine (L.define param hh hv).bind fun κ₁ _ _ hp _ => ?_
          exact ih (C.handles_passes hp hh) (hvs.imp fun _ _ => C.values_passes hp)

lemma rules (L : C.Laws s leave leave') : C.Rules s s leave leave' where
  special _ := rfl
  stack := rfl
  unit := L.unit
  literal := L.literal
  shape := L.shape
  head _ _ := L.forms ..
  items _ _ _ _ := L.forms ..
  parsed _ _ _ _ := L.forms ..
  fault := L.fault
  notString := L.notString
  log := L.log
  source := L.source
  referred _ := L.forms ..
  lookup _ hh := fun w w' hw =>
    (L.lookup _ hh w w' hw).imp fun κ' _ _ hfound => ⟨hfound, fun _ _ => L.reference κ' _⟩
  define _ _ hh hv := L.define _ hh hv
  make _ _ _ hh := L.make _ _ hh
  apply := L.apply
  call hc hh ha _ hw := by
    obtain ⟨κ₁, hw₁, hframe, hvals, hleave⟩ := L.call (L.callee hc hh) hw
    refine ⟨κ₁, hframe, ?_, hleave⟩
    exact (L.bindParams hframe (ha.imp hvals) _ _ hw₁).imp fun _ _ _ _ _ _ => L.forms ..
  cramped htrace hc hh hw := L.cramped htrace (L.callee hc hh) hw

theorem evaluateWith (L : C.Laws s leave leave') (depth : Nat) :
    C.Matches (evaluateWith s leave depth) (evaluateWith s leave' depth) :=
  L.rules.evaluateWith depth

lemma invokeWithin (L : C.Laws s leave leave') (hev : C.Matches ev ev') {left forwards : Nat}
    {name : String} {binding binding' : Binding} {args args' : List Value}
    (hh : C.handles κ h h') (ha : List.Forall₂ (C.values κ) args args')
    (hb : C.Bound κ binding binding') :
    C.Coupled g g' κ C.values (invokeWithin s leave left ev forwards name binding args h)
      (invokeWithin s leave' left ev' forwards name binding' args' h') :=
  L.rules.invokeWithin hev.matchesFrom hh ha hb

lemma runWith (L : C.Laws s leave leave') (hev : C.Matches ev ev') (source : String)
    (hh : C.handles κ h h') :
    C.Coupled h h' κ C.values (runWith ev source h) (runWith ev' source h') :=
  L.rules.runWith hev (fun _ _ _ _ => L.forms ..) hh

end Coupling.Laws

end ArenaLisp
