import ArenaLisp.Proofs.Builtins
import ArenaLisp.Proofs.Lasting

/-!
# What holds of everything that comes up

Some properties hold of every value that can come up while sources are run, and of every binding,
because each step of evaluation hands them on.  Which steps there are does not depend on the
property.  So the walk through the evaluator is made once, for any such *discipline*, and over
journals, so that it speaks about every point of a run and not about its end alone.

A discipline may be kept only as long as something is granted of the values that come up, say that
they are not too long.  Values that have come up are on record in the journal, so this can be said.

* `Discipline`, `Discipline.Laws` — properties of arenas, values and nodes that the primitive steps
  hand on.
* `Journal.Keeps` — a computation that keeps a discipline, at every point and however it ends.
* **`Journal.keeps_evaluateWith`** — evaluation keeps every discipline.
* `History.kept` — and so does any sequence of runs.
-/

namespace ArenaLisp

/-! ## Sources that cannot be read -/

/-- A literal that is not read because of its length has more digits than are read. -/
lemma digitLimit_lt_of_classify {text : String} {digits : Nat}
    (h : classify text = .error (.tooManyDigits digits)) : Decimal.digitLimit < digits := by
  unfold classify at h
  cases hr : Decimal.readInteger text.toList with
  | tooLong count =>
      rw [hr] at h
      cases h
      exact Decimal.digitLimit_lt_of_tooLong hr
  | value n =>
      rw [hr] at h
      simp only at h
      split_ifs at h
      cases h
  | malformed =>
      rw [hr] at h
      simp only at h
      split at h <;> cases h

lemma digitLimit_lt_of_step {event : Lexer.Event} {lists : Reader.Open} {digits : Nat}
    (h : (Reader.step event lists).1 = some (.error (.tooManyDigits digits))) :
    Decimal.digitLimit < digits := by
  have hplace : ∀ (node : Node) (lists : Reader.Open),
      (Reader.place node lists).1 ≠ some (.error (.tooManyDigits digits)) := by
    intro node lists
    cases lists <;> simp [Reader.place]
  cases event with
  | error fault => simp [Reader.step, Reader.abandon] at h
  | ok token =>
      simp only [Reader.step, Reader.stepToken] at h
      cases hk : token.kind with
      | opening => simp [hk] at h
      | closing =>
          cases lists with
          | nil => simp [hk, Reader.abandon] at h
          | cons items outer => exact absurd (by simpa [hk] using h) (hplace _ _)
      | string => exact absurd (by simpa [hk] using h) (hplace _ _)
      | symbol =>
          cases hc : classify token.text with
          | ok node => exact absurd (by simpa [hk, hc] using h) (hplace _ _)
          | error fault =>
              obtain rfl : fault = .tooManyDigits digits := by
                simpa [hk, hc, Reader.abandon] using h
              exact digitLimit_lt_of_classify hc
      | bare => simp [hk, Reader.abandon] at h

lemma digitLimit_lt_of_forms {digits : Nat} (events : List Lexer.Event) :
    ∀ lists : Reader.Open, .error (.tooManyDigits digits) ∈ Reader.formsFrom lists events →
      Decimal.digitLimit < digits := by
  induction events with
  | nil =>
      intro lists hmem
      simp only [Reader.formsFrom, Reader.finish] at hmem
      split_ifs at hmem <;> simp at hmem
  | cons event rest ih =>
      intro lists hmem
      simp only [Reader.formsFrom, List.mem_append, Option.mem_toList] at hmem
      rcases hmem with hmem | hmem
      · exact digitLimit_lt_of_step hmem
      · exact ih _ hmem

lemma mem_of_firstFault {ε α : Type} {fault : ε} {outcomes : List (Except ε α)}
    (h : firstFault outcomes = .error fault) : .error fault ∈ outcomes := by
  induction outcomes with
  | nil => cases h
  | cons outcome rest ih =>
      cases outcome with
      | error other =>
          cases h
          exact List.mem_cons_self
      | ok value =>
          cases hrest : firstFault rest with
          | error other =>
              rw [firstFault, hrest] at h
              cases h
              exact List.mem_cons_of_mem _ (ih hrest)
          | ok values =>
              rw [firstFault, hrest] at h
              cases h

/-- The fault of a source that cannot be read is foreseen. -/
lemma foreseen_read {source : String} {fault : ReadFault} (h : parse source = .error fault) :
    (Fault.read fault).Foreseen := by
  intro _
  cases fault with
  | tooManyDigits digits => exact digitLimit_lt_of_forms _ _ (mem_of_firstFault h)
  | _ => trivial

/-! ## What was found was bound -/

namespace Arena

lemma exists_of_mem_chainFrom {a : Arena} {sc : Scope} : ∀ (steps : Nat) (h : Handle),
    some sc ∈ a.chainFrom steps h → ∃ i, a.scope? i = some sc := by
  intro steps
  induction steps with
  | zero => intro h hmem; simp [chainFrom] at hmem
  | succ steps ih =>
      intro h hmem
      unfold chainFrom at hmem
      cases hs : a.scope? h with
      | none => simp [hs] at hmem
      | some found =>
          simp only [hs, List.mem_cons, Option.some.injEq] at hmem
          rcases hmem with rfl | hmem
          · exact ⟨h, hs⟩
          · cases hp : found.parent with
            | none => simp [hp] at hmem
            | some parent => exact ih parent (by simpa [hp] using hmem)

lemma exists_of_lookupAlong {name : String} {binding : Binding} : ∀ {way : List (Option Scope)},
    lookupAlong name way = .ok (some binding) →
      ∃ sc, some sc ∈ way ∧ (name, binding) ∈ sc.bindings := by
  intro way
  induction way with
  | nil => intro h; cases h
  | cons link rest ih =>
      intro h
      cases link with
      | none => cases h
      | some sc =>
          unfold lookupAlong at h
          cases hget : sc.get? name with
          | none =>
              rw [hget] at h
              obtain ⟨other, hmem, hentry⟩ := ih h
              exact ⟨other, List.mem_cons_of_mem _ hmem, hentry⟩
          | some found =>
              rw [hget] at h
              cases h
              exact ⟨sc, List.mem_cons_self, Ordered.mem_of_get? hget⟩

/-- A binding that is found is an entry of some scope. -/
lemma Entries.lookup {E : Handle → String × Binding → Prop} {a : Arena} (he : a.Entries E)
    {h : Handle} {name : String} {binding : Binding}
    (hl : a.lookup h name = .ok (some binding)) : ∃ i, E i (name, binding) := by
  obtain ⟨sc, hmem, hentry⟩ := exists_of_lookupAlong hl
  obtain ⟨i, hs⟩ := exists_of_mem_chainFrom _ _ hmem
  exact ⟨i, he i sc hs _ hentry⟩

end Arena

/-! ## Disciplines -/

/-- Properties of arenas, of names, of values and of nodes, and what is granted of the values that
come up. -/
structure Discipline where
  arenas : Arena → Prop
  names : String → Prop := fun _ => True
  values : Value → Prop
  nodes : Node → Prop
  granted : Value → Prop

namespace Discipline

/-- The primitive steps hand a discipline on. -/
structure Laws (D : Discipline) : Prop where
  unit : D.values .unit
  reference : ∀ name, D.values (.reference name)
  literal : ∀ {l}, D.nodes (.literal l) → D.values (.ofLiteral l)
  lambda : ∀ {params body scope}, D.values (.lambda params body scope) ↔
    (∀ param ∈ params, D.names param) ∧ ∀ node ∈ body, D.nodes node
  symbol : ∀ {name}, D.nodes (.symbol name) → D.names name
  items : ∀ {items}, D.nodes (.list items) → ∀ item ∈ items, D.nodes item
  parsed : ∀ {source nodes}, parse source = .ok nodes → ∀ node ∈ nodes, D.nodes node
  apply : ∀ {b env args}, (∀ arg ∈ args, D.values arg ∧ D.granted arg) →
    Yields D.values (Builtin.apply b env args)
  found : ∀ {a h name v}, D.arenas a → a.lookup h name = .ok (some (.constant v)) → D.values v
  define : ∀ {a v name} h, D.names name → D.arenas a → D.values v →
    D.arenas (a.define h name v)
  capture : ∀ {a} h, D.arenas a → D.arenas (a.capture h)
  child : ∀ {a} h, D.arenas a → D.arenas (a.child h)
  release : ∀ {a} h, D.arenas a → D.arenas (a.release h)

variable (D : Discipline)

/-- Every value that came up is granted. -/
def Grants (moments : List Moment) : Prop :=
  ∀ m ∈ moments, ∀ v, m.event = .evaluated v → D.granted v

/-- At a moment the discipline is kept: by the arena, and by the value that came up. -/
def Kept (m : Moment) : Prop := D.arenas m.arena ∧ ∀ v, m.event = .evaluated v → D.values v

/-- What evaluation comes to: a value of the discipline, and granted. -/
def Result (v : Value) : Prop := D.values v ∧ D.granted v

/-- An outcome and the moments before it, with the discipline kept throughout. -/
inductive Ends (R : α → Prop) : EStateM.Result Fault World α → List Moment → Prop where
  | ok {value : α} {w : World} {moments : List Moment} :
      (∀ m ∈ moments, D.Kept m) → D.arenas w.arena → R value → Ends R (.ok value w) moments
  | error {fault : Fault} {w : World} {moments : List Moment} :
      (∀ m ∈ moments, D.Kept m) → D.arenas w.arena → fault.Foreseen →
      Ends R (.error fault w) moments

end Discipline

namespace Journal

/-- A computation that keeps a discipline as long as the values that come up are granted. -/
def Keeps (D : Discipline) (R : α → Prop) (x : Journal α) : Prop :=
  ∀ w : World, D.arenas w.arena → D.Grants (x.moments w) → D.Ends R (x.run w) (x.moments w)

variable {D : Discipline} {α β : Type} {R : α → Prop} {S : β → Prop}

/-! ## Composing computations -/

lemma Keeps.pure {value : α} (h : R value) : Keeps D R (Pure.pure value : Journal α) :=
  fun _ ha _ => .ok (by simp [Pure.pure]) ha h

lemma Keeps.imp {R' : α → Prop} {x : Journal α} (hx : Keeps D R x)
    (h : ∀ value, R value → R' value) : Keeps D R' x := by
  intro w ha hg
  have hends := hx w ha hg
  generalize x.run w = r at hends ⊢
  cases hends with
  | ok hm hw hR => exact .ok hm hw (h _ hR)
  | error hm hw hf => exact .error hm hw hf

/-- Two computations in sequence. -/
lemma Keeps.bind {x : Journal α} {f : α → Journal β} (hx : Keeps D R x)
    (hf : ∀ value, R value → Keeps D S (f value)) : Keeps D S (x >>= f) := by
  intro w ha hg
  show D.Ends S ((x.run >>= fun value => (f value).run) w) ((x >>= f).moments w)
  cases hrun : x.run w with
  | ok value w' =>
      rw [moments_bind_of_ok hrun] at hg ⊢
      have hends := hx w ha fun m hm => hg m (List.mem_append_left _ hm)
      rw [hrun] at hends
      obtain ⟨hm, hw', hR⟩ := hends
      have hends' := hf value hR w' hw' fun m hm => hg m (List.mem_append_right _ hm)
      rw [bind_of_ok hrun]
      generalize (f value).run w' = r at hends' ⊢
      cases hends' with
      | ok hm' hw hS => exact .ok (List.forall_mem_append.mpr ⟨hm, hm'⟩) hw hS
      | error hm' hw hf => exact .error (List.forall_mem_append.mpr ⟨hm, hm'⟩) hw hf
  | error fault w' =>
      rw [moments_bind_of_error hrun] at hg ⊢
      have hends := hx w ha hg
      rw [hrun] at hends
      obtain _ | ⟨hm, hw', hfault⟩ := hends
      rw [bind_of_error hrun]
      exact .error hm hw' hfault

/-- A computation that leaves the arena alone. -/
lemma Keeps.quiet {x : Run α} (h : Yields R x) : Keeps D R (quiet x) := by
  intro w ha _
  have hcomes := h.comes w
  show D.Ends R (x w) []
  generalize x w = r at hcomes ⊢
  cases hcomes with
  | ok hw hR => exact .ok (by simp) (hw.arena ▸ ha) hR
  | error hw hf => exact .error (by simp) (hw.arena ▸ ha) hf

lemma Keeps.throw {fault : Fault} (h : fault.Foreseen) :
    Keeps D R (Journal.quiet (MonadExcept.throw fault)) :=
  .quiet (.throw h)

/-- A step that changes the arena, and whose event is no value that came up. -/
lemma Keeps.step {x : Run α} {event : Event} (he : ∀ v, event ≠ .evaluated v)
    (hx : ∀ w : World, D.arenas w.arena → D.Ends R (x w) []) : Keeps D R (step x event) := by
  intro w ha _
  have hends := hx w ha
  show D.Ends R (x w) ((Journal.step x event).moments w)
  simp only [Journal.step]
  generalize x w = r at hends ⊢
  cases hends with
  | ok _ hw hR =>
      refine .ok (List.forall_mem_singleton.mpr ⟨hw, ?_⟩) hw hR
      exact fun v hv => absurd hv (he v)
  | error _ hw hf => exact .error (by simp) hw hf

/-- The value that a computation comes to is noted, and so it is granted. -/
lemma Keeps.noted {x : Journal Value} (hx : Keeps D D.values x) : Keeps D D.Result (noted x) := by
  intro w ha hg
  simp only [Journal.noted] at hg ⊢
  have hends := hx w ha fun m hm => hg m (List.mem_append_left _ hm)
  generalize x.run w = r at hends hg ⊢
  cases hends with
  | @ok value w' _ hm hw hv =>
      have hgranted : D.granted value := hg ⟨.evaluated value, w'.arena⟩ (by simp) value rfl
      refine .ok (List.forall_mem_append.mpr ⟨hm, ?_⟩) hw ⟨hv, hgranted⟩
      refine List.forall_mem_singleton.mpr ⟨hw, fun v hv' => ?_⟩
      obtain rfl : value = v := Event.evaluated.inj hv'
      exact hv
  | error hm hw hf =>
      rw [List.append_nil]
      exact .error hm hw hf

/-- A frame is left however a computation ends. -/
lemma Keeps.leaving (L : D.Laws) (s : Settings) (frame : Handle) {x : Journal α}
    (hx : Keeps D R x) : Keeps D R (leaving s frame x) := by
  have hleave : ∀ {w : World}, D.arenas w.arena → D.arenas (reclaimFrame s frame w).arena := by
    intro w hw
    rw [reclaimFrame_arena, Arena.leave]
    split_ifs
    · exact L.release frame hw
    · exact hw
  have hleft : ∀ {w : World}, D.arenas w.arena → ∀ m ∈ released s frame w, D.Kept m := by
    intro w hw m hm
    unfold released at hm
    split_ifs at hm
    · rw [List.mem_singleton.mp hm]
      exact ⟨hleave hw, by simp⟩
    · simp at hm
  intro w ha hg
  simp only [Journal.leaving, Run.guarded, Run.after] at hg ⊢
  have hends := hx w ha fun m hm => hg m (List.mem_append_left _ hm)
  generalize x.run w = r at hends ⊢
  cases hends with
  | ok hm hw hR => exact .ok (List.forall_mem_append.mpr ⟨hm, hleft hw⟩) (hleave hw) hR
  | error hm hw hf => exact .error (List.forall_mem_append.mpr ⟨hm, hleft hw⟩) (hleave hw) hf

/-! ## The primitive steps -/

/-- A binding to a value of the discipline, or to a builtin. -/
def BoundTo (D : Discipline) (binding : Binding) : Prop := ∀ v, binding = .constant v → D.values v

lemma keeps_lookup (L : D.Laws) (h : Handle) (name : String) :
    Keeps D (fun found => ∀ binding, found = some binding → BoundTo D binding)
      (quiet (Run.lookup h name)) := by
  intro w ha _
  show D.Ends _ (Run.lookup h name w) []
  rw [Run.lookup_eq]
  cases hfound : w.arena.lookup h name with
  | error fault =>
      obtain rfl := Arena.lookupAlong_error hfound
      exact .error (by simp) ha Fault.foreseen_releasedScope
  | ok found =>
      refine .ok (by simp) ha ?_
      rintro _ rfl v rfl
      exact L.found ha hfound

lemma keeps_define (L : D.Laws) (h : Handle) {name : String} (hn : D.names name) {v : Value}
    (hv : D.values v) :
    Keeps D (fun _ => True) (step (Run.define h name v) (.bound h name v)) := by
  refine .step (by simp) fun w ha => ?_
  rcases Nat.lt_or_ge h w.arena.size with hlt | hge
  · rw [Run.define_of_live hlt]
    exact .ok (by simp) (L.define h hn ha hv) trivial
  · rw [Run.define_of_dead hge]
    exact .error (by simp) ha Fault.foreseen_releasedScope

lemma keeps_makeLambda (L : D.Laws) (s : Settings) {params : List String} {body : List Node}
    (hp : ∀ param ∈ params, D.names param) (hb : ∀ node ∈ body, D.nodes node) (h : Handle) :
    Keeps D D.values (makeLambda s params body h) := by
  unfold makeLambda
  cases s.scoping with
  | dynamic => exact .pure (L.lambda.mpr ⟨hp, hb⟩)
  | lexical =>
      refine Keeps.bind (R := fun _ => True) (.step (by simp) fun w ha => ?_)
        fun _ _ => .pure (L.lambda.mpr ⟨hp, hb⟩)
      rcases Nat.lt_or_ge h w.arena.size with hlt | hge
      · rw [Run.capture_of_live hlt]
        exact .ok (by simp) (L.capture h ha) trivial
      · rw [Run.capture_of_dead hge]
        exact .error (by simp) ha Fault.foreseen_releasedScope

lemma keeps_log (tracer : Tracer) (message : Unit → String) :
    Keeps D (fun _ => True) (quiet (Run.log tracer message)) :=
  .quiet (.log tracer message)

lemma keeps_openScope (L : D.Laws) (h : Handle) (room : Bool) :
    Keeps D (fun _ => True) (openScope h room) := by
  refine Keeps.bind (R := fun _ => True) (.step (by simp) fun w ha => ?_) fun frame _ => ?_
  · show D.Ends _ (.ok w.arena.size (w.withArena (w.arena.child h))) []
    exact .ok (by simp) (L.child h ha) trivial
  · have htrace : Keeps D (fun _ => True) (quiet (Run.traceScope h frame room)) := by
      cases room with
      | true => exact keeps_log _ _
      | false => exact .throw fun _ => trivial
    exact htrace.bind fun _ _ => .pure trivial

/-! ## The evaluator -/

/-- A way of evaluating nodes that keeps a discipline. -/
def Disciplined (D : Discipline) (ev : Evaluation) : Prop :=
  ∀ (node : Node) (env : Handle), D.nodes node → Keeps D D.Result (ev node env)

variable {s : Settings} {left : Nat} {ev : Evaluation}

lemma keeps_evaluateAll (hev : Disciplined D ev) (env : Handle) (nodes : List Node) :
    (∀ node ∈ nodes, D.nodes node) →
      Keeps D (fun values => ∀ v ∈ values, D.Result v) (evaluateAll ev env nodes) := by
  induction nodes with
  | nil => exact fun _ => .pure (by simp)
  | cons node rest ih =>
      intro hn
      refine (hev node env (hn node (by simp))).bind fun v hv => ?_
      refine (ih fun other ho => hn other (by simp [ho])).bind fun vs hvs => ?_
      exact .pure (List.forall_mem_cons.mpr ⟨hv, hvs⟩)

lemma keeps_evaluateBody (hev : Disciplined D ev) (env : Handle) (nodes : List Node) :
    ∀ {last : Value}, D.values last → (∀ node ∈ nodes, D.nodes node) →
      Keeps D D.values (evaluateBody ev env last nodes) := by
  induction nodes with
  | nil => exact fun hl _ => .pure hl
  | cons node rest ih =>
      intro last _ hn
      refine (hev node env (hn node (by simp))).bind fun v hv => ?_
      exact ih hv.1 fun other ho => hn other (by simp [ho])

lemma keeps_runWith (L : D.Laws) (hev : Disciplined D ev) (source : String) (env : Handle) :
    Keeps D D.values (runWith ev source env) := by
  unfold runWith
  cases hp : parse source with
  | error fault => exact .throw (foreseen_read hp)
  | ok nodes => exact keeps_evaluateBody hev env nodes L.unit (L.parsed hp)

lemma keeps_bindParams (L : D.Laws) (frame : Handle) : ∀ (params : List String) (args : List Value),
    (∀ param ∈ params, D.names param) → (∀ arg ∈ args, D.values arg) →
      Keeps D (fun _ => True) (bindParams frame params args) := by
  intro params
  induction params with
  | nil => exact fun _ _ _ => .pure trivial
  | cons param params ih =>
      intro args hp ha
      cases args with
      | nil => exact .pure trivial
      | cons arg args =>
          refine (keeps_define L frame (hp param (by simp)) (ha arg (by simp))).bind fun _ _ => ?_
          exact ih args (fun other ho => hp other (by simp [ho])) fun v hv => ha v (by simp [hv])

lemma keeps_callLambda (L : D.Laws) (hev : Disciplined D ev) (name : String)
    {params : List String} {body : List Node} {captured : Option Handle} {args : List Value}
    (env : Handle) (hv : D.values (.lambda params body captured))
    (ha : ∀ arg ∈ args, D.values arg) :
    Keeps D D.values (callLambda s left ev name params body captured args env) := by
  obtain ⟨hp, hb⟩ := L.lambda.mp hv
  unfold callLambda
  split_ifs
  · exact .throw fun _ => trivial
  · exact .throw fun _ => trivial
  · refine (keeps_openScope L _ _).bind fun frame _ => Keeps.leaving L s frame ?_
    refine (keeps_bindParams L frame params args hp ha).bind fun _ _ => ?_
    exact keeps_evaluateBody hev frame body L.unit hb

/-- Invoking a binding that is not a reference. -/
lemma keeps_invoke_direct (L : D.Laws) (hev : Disciplined D ev) (forwards : Nat) (name : String)
    {binding : Binding} {args : List Value} (env : Handle) (hb : BoundTo D binding)
    (ha : ∀ arg ∈ args, D.Result arg) (hr : ∀ target, binding ≠ .constant (.reference target)) :
    Keeps D D.values (invokeWithin s left ev forwards name binding args env) := by
  have hplain : ∀ {v : Value}, D.values v → Keeps D D.values
      (if args.isEmpty then Pure.pure v else quiet (throw
        (.arity { expected := 0, actual := args.length, name := some name }))) := by
    intro v hv
    split_ifs
    · exact .pure hv
    · exact .throw fun _ => trivial
  cases binding with
  | builtin b => cases forwards <;> exact .quiet (L.apply ha)
  | constant v =>
      have hv := hb v rfl
      cases v with
      | lambda params body captured =>
          cases forwards <;>
            exact keeps_callLambda L hev name env hv fun arg harg => (ha arg harg).1
      | reference target => exact absurd rfl (hr target)
      | _ => cases forwards <;> exact hplain hv

/-- Invoking a binding, through any number of references. -/
lemma keeps_invokeWithin (L : D.Laws) (hev : Disciplined D ev) (env : Handle)
    {args : List Value} (ha : ∀ arg ∈ args, D.Result arg) :
    ∀ (forwards : Nat) (name : String) (binding : Binding), BoundTo D binding →
      Keeps D D.values (invokeWithin s left ev forwards name binding args env) := by
  intro forwards
  induction forwards with
  | zero =>
      intro name binding hb
      by_cases hr : ∃ target, binding = .constant (.reference target)
      · obtain ⟨target, rfl⟩ := hr
        exact .throw fun _ => trivial
      · exact keeps_invoke_direct L hev 0 name env hb ha fun target ht => hr ⟨target, ht⟩
  | succ forwards ih =>
      intro name binding hb
      by_cases hr : ∃ target, binding = .constant (.reference target)
      · obtain ⟨target, rfl⟩ := hr
        refine (keeps_lookup L env target).bind fun found hfound => ?_
        cases found with
        | none => exact .throw fun _ => trivial
        | some binding =>
            by_cases ht : target = name
            · simp only [ht, if_true]
              exact .throw fun _ => trivial
            · simp only [ht, if_false]
              exact ih target binding (hfound binding rfl)
      · exact keeps_invoke_direct L hev _ name env hb ha fun target ht => hr ⟨target, ht⟩

lemma keeps_evaluateIf (hev : Disciplined D ev) {args : List Node}
    (hn : ∀ node ∈ args, D.nodes node) (env : Handle) :
    Keeps D D.values (evaluateIf ev args env) := by
  match args with
  | [test, consequent, alternative] =>
      refine (hev test env (hn test (by simp))).bind fun v _ => ?_
      split_ifs
      · exact (hev consequent env (hn consequent (by simp))).imp fun _ hv => hv.1
      · exact (hev alternative env (hn alternative (by simp))).imp fun _ hv => hv.1
  | [] => exact .throw fun _ => trivial
  | [_] => exact .throw fun _ => trivial
  | [_, _] => exact .throw fun _ => trivial
  | _ :: _ :: _ :: _ :: _ => exact .throw fun _ => trivial

lemma keeps_evaluateDefine (L : D.Laws) (hev : Disciplined D ev) {args : List Node}
    (hn : ∀ node ∈ args, D.nodes node) (env : Handle) :
    Keeps D D.values (evaluateDefine ev args env) := by
  match args with
  | [] => exact .throw fun _ => trivial
  | [node] => cases node <;> exact .throw fun _ => trivial
  | .symbol name :: expr :: _ =>
      refine (hev expr env (hn expr (by simp))).bind fun v hv => ?_
      refine (keeps_log _ _).bind fun _ _ => ?_
      have hname := L.symbol (hn (.symbol name) (by simp))
      exact (keeps_define L env hname hv.1).bind fun _ _ => .pure L.unit
  | .list _ :: _ :: _ => exact .quiet (.pure L.unit)
  | .literal _ :: _ :: _ => exact .quiet (.pure L.unit)

/-- The names of a parameter list are those of its symbols. -/
lemma mem_of_paramNames {name : String} : ∀ {params : List Node} {names : List String},
    paramNames params = .ok names → name ∈ names → .symbol name ∈ params := by
  intro params
  induction params with
  | nil =>
      intro names h hmem
      cases h
      simp at hmem
  | cons param rest ih =>
      intro names h hmem
      cases param with
      | symbol first =>
          simp only [paramNames] at h
          cases hrest : paramNames rest with
          | error fault => rw [hrest] at h; cases h
          | ok others =>
              rw [hrest] at h
              cases h
              rcases List.mem_cons.mp hmem with rfl | hmem
              · exact List.mem_cons_self
              · exact List.mem_cons_of_mem _ (ih hrest hmem)
      | list => cases h
      | literal => cases h

lemma keeps_evaluateLambda (L : D.Laws) {args : List Node} (hn : ∀ node ∈ args, D.nodes node)
    (env : Handle) : Keeps D D.values (evaluateLambda s args env) := by
  match args with
  | [] => exact .throw fun _ => trivial
  | .list params :: body =>
      simp only [evaluateLambda]
      cases hp : paramNames params with
      | error fault => exact .throw fun _ => trivial
      | ok names =>
          have hparams : ∀ param ∈ names, D.names param := fun param hmem =>
            L.symbol (L.items (hn (.list params) (by simp)) _ (mem_of_paramNames hp hmem))
          exact keeps_makeLambda L s hparams (fun node hb => hn node (by simp [hb])) env
  | .symbol _ :: _ => exact .throw fun _ => trivial
  | .literal _ :: _ => exact .throw fun _ => trivial

lemma keeps_stringArgument (hev : Disciplined D ev) (form : String) {args : List Node}
    (hn : ∀ node ∈ args, D.nodes node) (env : Handle) :
    Keeps D (fun _ => True) (stringArgument ev form args env) := by
  match args with
  | [arg] =>
      refine (hev arg env (hn arg (by simp))).bind fun v _ => ?_
      cases v with
      | string text => exact .pure trivial
      | _ => exact .throw fun _ => trivial
  | [] => exact .throw fun _ => trivial
  | _ :: _ :: _ => exact .throw fun _ => trivial

lemma keeps_evaluateForm (L : D.Laws) (hev : Disciplined D ev) (form : SpecialForm)
    {args : List Node} (hn : ∀ node ∈ args, D.nodes node) (env : Handle) :
    Keeps D D.values (evaluateForm s ev form args env) := by
  cases form with
  | conditional => exact keeps_evaluateIf hev hn env
  | define => exact keeps_evaluateDefine L hev hn env
  | lambda => exact keeps_evaluateLambda L hn env
  | sequence =>
      cases args with
      | nil => exact .throw fun _ => trivial
      | cons node rest => exact keeps_evaluateBody hev env (node :: rest) L.unit hn
  | eval =>
      refine (keeps_stringArgument hev "eval" hn env).bind fun source _ => ?_
      exact keeps_runWith L hev source env
  | inclusion =>
      refine (keeps_stringArgument hev "include" hn env).bind fun path _ => ?_
      refine (keeps_log _ _).bind fun _ _ => ?_
      refine (Keeps.quiet (.readSource path)).bind fun source _ => ?_
      exact (keeps_runWith L hev source env).bind fun _ _ => .pure L.unit

lemma keeps_evaluateCall (L : D.Laws) (hev : Disciplined D ev) (name : String) {args : List Node}
    (hn : ∀ node ∈ args, D.nodes node) (env : Handle) :
    Keeps D D.values (evaluateCall s left ev name args env) := by
  refine (keeps_evaluateAll hev env args hn).bind fun vs hvs => ?_
  refine (keeps_lookup L env name).bind fun found hfound => ?_
  cases found with
  | none => exact .throw fun _ => trivial
  | some binding =>
      refine (keeps_log _ _).bind fun _ _ => ?_
      exact keeps_invokeWithin L hev env hvs s.stack.forwards name binding (hfound binding rfl)

lemma keeps_evaluateNode (L : D.Laws) (hev : Disciplined D ev) {node : Node} (hn : D.nodes node)
    (env : Handle) : Keeps D D.values (evaluateNode s left ev node env) := by
  match node with
  | .literal l => exact .pure (L.literal hn)
  | .symbol name =>
      refine (keeps_lookup L env name).bind fun found hfound => ?_
      cases found with
      | none => exact .throw fun _ => trivial
      | some binding =>
          cases binding with
          | builtin b => exact .pure (L.reference name)
          | constant v => exact .pure (hfound _ rfl v rfl)
  | .list [] => exact .pure L.unit
  | .list (.symbol name :: args) =>
      have hargs : ∀ arg ∈ args, D.nodes arg := fun arg ha => L.items hn arg (by simp [ha])
      simp only [evaluateNode]
      cases s.form? name with
      | none => exact keeps_evaluateCall L hev name hargs env
      | some form => exact (keeps_log _ _).bind fun _ _ => keeps_evaluateForm L hev form hargs env
  | .list (.list _ :: _) => exact .throw fun _ => trivial
  | .list (.literal _ :: _) => exact .throw fun _ => trivial

/-- **Evaluation keeps every discipline** that its primitive steps hand on, nested to any depth. -/
theorem keeps_evaluateWith (L : D.Laws) (s : Settings) (depth : Nat) :
    Disciplined D (evaluateWith s depth) := by
  induction depth with
  | zero => exact fun _ _ _ => .throw fun _ => trivial
  | succ depth ih => exact fun node env hn => (keeps_evaluateNode L ih hn env).noted

end Journal

/-- A source that is run keeps every discipline. -/
theorem Discipline.Laws.ends_run {D : Discipline} (L : D.Laws) (s : Settings) (depth : Nat)
    (source : String) (env : Handle) {w : World} (ha : D.arenas w.arena)
    (hg : D.Grants ((Journal.runWith (Journal.evaluateWith s depth) source env).moments w)) :
    D.Ends D.values (runWith (evaluateWith s reclaimFrame depth) source env w)
      ((Journal.runWith (Journal.evaluateWith s depth) source env).moments w) := by
  have h := Journal.keeps_runWith L (Journal.keeps_evaluateWith L s depth) source env w ha hg
  rwa [Journal.run_runWith, Journal.plain_evaluateWith] at h

/-- Any sequence of runs keeps a discipline that the library keeps, at every moment and at the
end. -/
theorem History.kept {D : Discipline} (L : D.Laws) (hdefault : D.arenas Arena.default)
    {past : List Moment} {w : World} (h : History past w) :
    D.Grants past → (∀ m ∈ past, D.Kept m) ∧ D.arenas w.arena := by
  induction h with
  | start hw => exact fun _ => ⟨by simp, hw ▸ hdefault⟩
  | outside _ hw ih => exact fun hg => ⟨(ih hg).1, hw ▸ (ih hg).2⟩
  | @child past w env _ _ ih =>
      intro hg
      obtain ⟨hkept, ha⟩ := ih fun m hm => hg m (List.mem_append_left _ hm)
      have hchild : D.arenas (w.opened env).arena := by
        rw [World.opened_arena]
        exact L.child env ha
      refine ⟨List.forall_mem_append.mpr ⟨hkept, ?_⟩, hchild⟩
      exact List.forall_mem_singleton.mpr ⟨hchild, by simp⟩
  | @run past w s depth source env _ _ ih =>
      intro hg
      obtain ⟨hkept, ha⟩ := ih fun m hm => hg m (List.mem_append_left _ hm)
      have hends := L.ends_run s depth source env ha
        fun m hm => hg m (List.mem_append_right _ hm)
      unfold Run.after
      generalize runWith (evaluateWith s reclaimFrame depth) source env w = r at hends ⊢
      cases hends with
      | ok hm hw _ => exact ⟨List.forall_mem_append.mpr ⟨hkept, hm⟩, hw⟩
      | error hm hw _ => exact ⟨List.forall_mem_append.mpr ⟨hkept, hm⟩, hw⟩

end ArenaLisp
