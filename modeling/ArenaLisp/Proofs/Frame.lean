import ArenaLisp.Proofs.Operations

/-!
# What an evaluation leaves alone

Evaluating a node in a scope binds names in that scope and in no other.  Calls open frames, and
every frame is gone when its call ends, unless a lambda made meanwhile holds on to it or to a scope
made after it.  None of this depends on how the evaluation ends, nor on the arena being in good
order at its start.

There is one exception.  A call opens its frame before it is ready to leave it, and in between the
step is traced.  If the stack of the host has room for all but that, the call fails and the frame
stays, although nothing holds on to it.  Frames of calls further outside take it along when they are
released, so that one scope is left over at most, and only if the evaluation ends for that reason.

* `Extends` — how the number of scopes may change.
* `Frame s env` — what an evaluation in the scope `env` may do to the scopes that were there before.
* `Spares` — the same of a call: no scope that was there before changes at all.
* `Arena.Spilled`, `Spills s env` — the same with one scope left over.
* `Run.EndsIn` — a computation that leaves such an arena behind.
* `Footing`, `Coupling.within_laws` — what the primitive steps keep to, wherever they are made.
* **`evaluate_frame`** — every evaluation keeps to `Frame`, every call to `Spares`, but for a scope
  that is left over when the stack runs out.
* **`evaluate_spills`** — such a scope can be left over.
-/

namespace ArenaLisp

/-- How the scopes of an arena may grow in number: not at all under dynamic scoping, and otherwise
only if one of the new scopes is held by a lambda. -/
structure Extends (s : Settings) (a a' : Arena) : Prop where
  size_le : a.size ≤ a'.size
  dynamic : s.scoping = .dynamic → a'.size = a.size
  held : a.size < a'.size → ∃ i, a.size ≤ i ∧ a'.Holds i

/-- What may become of the scope at hand: it keeps its parent and its names, in their order; it may
be marked as held, but only under lexical scoping, and never loses the mark. -/
structure Scope.Grows (s : Settings) (sc sc' : Scope) : Prop where
  parent : sc'.parent = sc.parent
  names : sc.names <+: sc'.names
  held : sc.captured = true → sc'.captured = true
  dynamic : s.scoping = .dynamic → sc'.captured = sc.captured

/-- What an evaluation in the scope `env` may do to an arena: every other scope stays as it was. -/
structure Frame (s : Settings) (env : Handle) (a a' : Arena) : Prop extends Extends s a a' where
  others : ∀ i : Nat, i < a.size → i ≠ env → a'.scope? i = a.scope? i
  own : ∀ sc, a.scope? env = some sc → ∃ sc', a'.scope? env = some sc' ∧ sc.Grows s sc'

/-- What a call may do to an arena: every scope stays as it was. -/
structure Spares (s : Settings) (a a' : Arena) : Prop extends Extends s a a' where
  scopes : ∀ i : Nat, i < a.size → a'.scope? i = a.scope? i

/-- Every scope of the arena `a` is in the arena `a'` as it was. -/
def Arena.Keeps (a a' : Arena) : Prop := ∀ i : Nat, i < a.size → a'.scope? i = a.scope? i

/-- The arena `a'` is the arena `a`, perhaps with one scope left over at its end. -/
def Arena.Spilled (a a' : Arena) : Prop := a' = a ∨ ∃ p, a' = a.child p

/-- What an evaluation in the scope `env` may do to an arena if the stack is too small for it. -/
def Spills (s : Settings) (env : Handle) (a a' : Arena) : Prop :=
  ∃ a₁, Frame s env a a₁ ∧ a₁.Spilled a'

variable {s : Settings} {env : Handle} {a a' a'' : Arena}

/-! ## Frames compose -/

lemma Scope.Grows.refl (sc : Scope) : sc.Grows s sc := ⟨rfl, List.prefix_rfl, id, fun _ => rfl⟩

lemma Scope.Grows.trans {sc sc' sc'' : Scope} (h : sc.Grows s sc') (h' : sc'.Grows s sc'') :
    sc.Grows s sc'' where
  parent := h'.parent.trans h.parent
  names := h.names.trans h'.names
  held := h'.held ∘ h.held
  dynamic hd := (h'.dynamic hd).trans (h.dynamic hd)

lemma Extends.refl (a : Arena) : Extends s a a :=
  ⟨Nat.le_refl _, fun _ => rfl, fun h => absurd h (Nat.lt_irrefl _)⟩

/-- A call may do less than an evaluation, whatever the scope at hand. -/
lemma Spares.frame (h : Spares s a a') (env : Handle) : Frame s env a a' where
  toExtends := h.toExtends
  others i hi _ := h.scopes i hi
  own sc hs := ⟨sc, by rw [h.scopes env (Arena.lt_size hs), hs], .refl sc⟩

/-- An evaluation in a scope that is not there spares all that are. -/
lemma Frame.spares (h : Frame s env a a') (he : a.size ≤ env) : Spares s a a' where
  toExtends := h.toExtends
  scopes i hi := h.others i hi (Nat.ne_of_lt (Nat.lt_of_lt_of_le hi he))

lemma Frame.refl (a : Arena) : Frame s env a a :=
  Spares.frame ⟨.refl a, fun _ _ => rfl⟩ env

/-- No evaluation takes away the mark of a scope that is held. -/
lemma Frame.holds (h : Frame s env a a') {i : Nat} (hi : a.Holds i) : a'.Holds i := by
  obtain ⟨sc, hs, hc⟩ := hi
  by_cases he : i = env
  · subst he
    obtain ⟨sc', hs', hg⟩ := h.own sc hs
    exact ⟨sc', hs', hg.held hc⟩
  · exact ⟨sc, by rw [h.others i (Arena.lt_size hs) he, hs], hc⟩

lemma Frame.trans (h : Frame s env a a') (h' : Frame s env a' a'') : Frame s env a a'' where
  size_le := Nat.le_trans h.size_le h'.size_le
  dynamic hd := (h'.dynamic hd).trans (h.dynamic hd)
  held hlt := by
    -- the second evaluation adds a held scope, or the first does and it stays held
    by_cases hgrow : a'.size < a''.size
    · obtain ⟨i, hi, hheld⟩ := h'.held hgrow
      exact ⟨i, Nat.le_trans h.size_le hi, hheld⟩
    · have hle := h'.size_le
      obtain ⟨i, hi, hheld⟩ := h.held (by omega)
      exact ⟨i, hi, h'.holds hheld⟩
  others i hi he := by
    rw [h'.others i (Nat.lt_of_lt_of_le hi h.size_le) he, h.others i hi he]
  own sc hs := by
    obtain ⟨sc', hs', hg⟩ := h.own sc hs
    obtain ⟨sc'', hs'', hg'⟩ := h'.own sc' hs'
    exact ⟨sc'', hs'', hg.trans hg'⟩

lemma Arena.Keeps.holds (h : a.Keeps a') {i : Nat} (hi : a.Holds i) : a'.Holds i := by
  rw [Arena.Holds, h i hi.lt_size]
  exact hi

lemma Arena.Spilled.keeps (h : a.Spilled a') : a.Keeps a' := by
  obtain rfl | ⟨p, rfl⟩ := h
  · exact fun _ _ => rfl
  · exact fun _ hi => Arena.scope?_child_of_lt hi

lemma Spills.size_le (h : Spills s env a a') : a.size ≤ a'.size := by
  obtain ⟨a₁, hframe, rfl | ⟨p, rfl⟩⟩ := h
  · exact hframe.size_le
  · rw [Arena.size_child]
    exact Nat.le_succ_of_le hframe.size_le

lemma Frame.spills (h : Frame s env a a') : Spills s env a a' := ⟨a', h, Or.inl rfl⟩

lemma Spills.of_frame (h : Frame s env a a') (h' : Spills s env a' a'') : Spills s env a a'' := by
  obtain ⟨a₁, hframe, hspilled⟩ := h'
  exact ⟨a₁, h.trans hframe, hspilled⟩

/-! ## The primitive steps -/

lemma Frame.update {f : Scope → Scope} (hf : ∀ sc : Scope, sc.Grows s (f sc)) :
    Frame s env a (a.update env f) where
  size_le := Nat.le_of_eq (Arena.size_update a env f).symm
  dynamic _ := Arena.size_update a env f
  held hlt := absurd hlt (by rw [Arena.size_update]; omega)
  others i _ he := Arena.scope?_update_of_ne he
  own sc hs := ⟨f sc, by rw [Arena.scope?_update, if_pos rfl, hs]; rfl, hf sc⟩

lemma Frame.define (name : String) (value : Value) : Frame s env a (a.define env name value) :=
  Frame.update fun sc => ⟨rfl, Ordered.keys_put name _ sc.bindings, id, fun _ => rfl⟩

lemma Frame.capture (hs : s.scoping = .lexical) : Frame s env a (a.capture env) :=
  Frame.update fun _ => ⟨rfl, List.prefix_rfl, fun _ => rfl, fun hd => by rw [hs] at hd; cases hd⟩

/-- The arena after a frame was left. -/
def Arena.leave (s : Settings) (frame : Handle) (a : Arena) : Arena :=
  if s.scoping = .dynamic ∨ !a.isCaptured frame then a.release frame else a

@[simp] lemma reclaimFrame_arena (frame : Handle) (w : World) :
    (reclaimFrame s frame w).arena = w.arena.leave s frame := by
  unfold reclaimFrame Arena.leave
  split_ifs
  · simp [World.release]
  · rfl

lemma Arena.leave_of_release {frame : Handle}
    (h : s.scoping = .dynamic ∨ a.isCaptured frame = false) :
    a.leave s frame = a.release frame := by
  unfold Arena.leave
  rw [if_pos (h.imp_right fun hc => by simp [hc])]

lemma Arena.leave_of_keep {frame : Handle} (hs : s.scoping = .lexical)
    (hc : a.isCaptured frame = true) : a.leave s frame = a := by
  unfold Arena.leave
  rw [if_neg (by simp [hs, hc])]

/-! A scope that is left over is not held, and stays or goes with the frame that is left. -/

lemma Arena.Spilled.leave {frame : Handle} (h : a.Spilled a') (hle : frame ≤ a.size) :
    (a.leave s frame).Spilled (a'.leave s frame) := by
  obtain rfl | ⟨p, rfl⟩ := h
  · exact Or.inl rfl
  · by_cases hrelease : s.scoping = .dynamic ∨ a.isCaptured frame = false
    · rw [Arena.leave_of_release hrelease, Arena.leave_of_release (by rwa [isCaptured_child]),
        release_child p hle]
      exact Or.inl rfl
    · obtain ⟨hs, hc⟩ : s.scoping = .lexical ∧ a.isCaptured frame = true := by
        cases hs : s.scoping <;> simp_all
      rw [Arena.leave_of_keep hs hc, Arena.leave_of_keep hs (by rwa [isCaptured_child])]
      exact Or.inr ⟨p, rfl⟩

lemma Arena.Spilled.holds {i : Nat} (h : a.Spilled a') : a'.Holds i ↔ a.Holds i := by
  obtain rfl | ⟨p, rfl⟩ := h
  · exact Iff.rfl
  · exact Arena.holds_child

/-- The frame of a call is there as long as its body is evaluated. -/
lemma Frame.size_lt {p : Handle} (h : Frame s a.size (a.child p) a') : a.size < a'.size := by
  have hle := h.size_le
  rwa [Arena.size_child] at hle

/-- Under dynamic scoping nothing is marked as held while a call evaluates its body. -/
lemma Frame.not_holds_of_dynamic {p : Handle} (h : Frame s a.size (a.child p) a')
    (hs : s.scoping = .dynamic) {i : Nat} (hi : a.size ≤ i) : ¬ a'.Holds i := by
  intro hheld
  have hsize : a'.size = a.size + 1 := by rw [h.dynamic hs, Arena.size_child]
  have hlt : i < a'.size := hheld.lt_size
  obtain rfl : i = a.size := by omega
  obtain ⟨sc', hs', hg⟩ := h.own { parent := some p } (by rw [Arena.scope?_child, if_pos rfl])
  obtain ⟨sc, hsc, hcap⟩ := hheld
  rw [hs', Option.some.injEq] at hsc
  rw [← hsc, hg.dynamic hs] at hcap
  cases hcap

/-- When a call has evaluated its body, no scope from the frame on is held, or the frame is kept. -/
lemma Spills.leave_cases {p : Handle} (h : Spills s a.size (a.child p) a') :
    (a'.leave s a.size = a'.release a.size ∧ ∀ i : Nat, a'.Holds i → i < a.size) ∨
      (a'.leave s a.size = a' ∧ s.scoping = .lexical ∧ ∃ i, a.size ≤ i ∧ a'.Holds i) := by
  obtain ⟨a₁, hframe, hspilled⟩ := h
  by_cases hc : a'.isCaptured a.size = true
  · obtain ⟨i, hi, hheld⟩ := Arena.isCaptured_iff.mp hc
    cases hs : s.scoping with
    | lexical => exact Or.inr ⟨Arena.leave_of_keep hs hc, rfl, i, hi, hheld⟩
    | dynamic => exact absurd (hspilled.holds.mp hheld) (hframe.not_holds_of_dynamic hs hi)
  · refine Or.inl ⟨Arena.leave_of_release (Or.inr (by simpa using hc)), fun i hheld => ?_⟩
    by_contra hge
    exact hc (Arena.isCaptured_iff.mpr ⟨i, Nat.not_lt.mp hge, hheld⟩)

/-- A call spares every scope that was there before it. -/
lemma Frame.leave {p : Handle} (h : Frame s a.size (a.child p) a') :
    Spares s a (a'.leave s a.size) := by
  have hsize := h.size_lt
  have hold : ∀ i : Nat, i < a.size → a'.scope? i = a.scope? i := by
    intro i hi
    rw [h.others i (by rw [Arena.size_child]; omega) (Nat.ne_of_lt hi), Arena.scope?_child_of_lt hi]
  rcases h.spills.leave_cases with ⟨heq, _⟩ | ⟨heq, hs, hheld⟩
  · have hrel : (a'.leave s a.size).size = a.size := by
      rw [heq, Arena.size_release]
      omega
    refine ⟨⟨by omega, fun _ => hrel, fun hlt => by omega⟩, fun i hi => ?_⟩
    rw [heq, Arena.scope?_release, if_pos hi, hold i hi]
  · rw [heq]
    exact ⟨⟨by omega, fun hd => absurd (hs.symm.trans hd) (by decide), fun _ => hheld⟩, hold⟩

/-- A call for which the stack is too small spares every scope that was there before it. -/
lemma Spills.leave {p : Handle} (h : Spills s a.size (a.child p) a') :
    ∃ a₁, Spares s a a₁ ∧ a₁.Spilled (a'.leave s a.size) := by
  obtain ⟨a₁, hframe, hspilled⟩ := h
  exact ⟨_, hframe.leave, hspilled.leave (Nat.le_of_lt hframe.size_lt)⟩

lemma Spills.leave_keeps {p : Handle} (h : Spills s a.size (a.child p) a') :
    a.Keeps (a'.leave s a.size) := by
  obtain ⟨a₁, hspares, hspilled⟩ := h.leave
  intro i hi
  rw [hspilled.keeps i (Nat.lt_of_lt_of_le hi hspares.size_le), hspares.scopes i hi]

/-! ## Evaluations -/

/-- The world that a computation leaves behind, however it ends. -/
def Run.after (x : Run α) (w : World) : World :=
  match x w with
  | .ok _ w' => w'
  | .error _ w' => w'

/-! ### Steps that do not come to the end of the stack -/

/-- A computation that keeps to the frame of the scope `env` in the arena `a`, however it ends. -/
def Run.KeepsTo (s : Settings) (env : Handle) (a : Arena) {α : Type} (x : Run α) : Prop :=
  ∀ w : World, w.arena = a → Frame s env a (x.after w).arena

namespace Run.KeepsTo

/-- A quiet computation keeps to every frame. -/
lemma of_quiet {α : Type} {R : α → α → Prop} {x : Run α}
    (h : Quiet some (fun _ => True) True a a R x x) : x.KeepsTo s env a := by
  intro w hw
  have hr := h w w ⟨hw, hw, .refl w⟩
  have ha : (x.after w).arena = a := by
    unfold Run.after
    generalize x w = r at hr ⊢
    cases hr with
    | ok _ hw' _ => exact hw'.1
    | error _ hw' _ => exact hw'.1
  rw [ha]
  exact Frame.refl a

lemma lookup (h : Handle) (name : String) : (Run.lookup h name).KeepsTo s env a := by
  intro w hw
  have hafter : (Run.lookup h name).after w = w := by
    unfold Run.after
    rw [Run.lookup_eq]
    cases w.arena.lookup h name <;> rfl
  rw [hafter, hw]
  exact Frame.refl a

lemma define (name : String) (value : Value) : (Run.define env name value).KeepsTo s env a := by
  intro w hw
  unfold Run.after
  rcases Nat.lt_or_ge env w.arena.size with hlive | hdead
  · rw [Run.define_of_live hlive, hw]
    exact Frame.define name value
  · rw [Run.define_of_dead hdead, hw]
    exact Frame.refl a

lemma make (params : List String) (body : List Node) :
    (makeLambda s params body env).KeepsTo s env a := by
  intro w hw
  unfold makeLambda Run.after
  cases hs : s.scoping with
  | dynamic => exact hw ▸ Frame.refl _
  | lexical =>
      rcases Nat.lt_or_ge env w.arena.size with hlive | hdead
      · simp only [bind_of_ok (Run.capture_of_live hlive)]
        exact hw ▸ Frame.capture hs
      · simp only [bind_of_error (Run.capture_of_dead hdead)]
        exact hw ▸ Frame.refl _

lemma apply (b : Builtin) (h : Handle) (args : List Value) :
    (b.apply h args).KeepsTo s env a := by
  have hlike : List.Forall₂ (Value.Like some fun _ => True) args args :=
    List.forall₂_same.mpr fun v _ => ⟨(Value.rescope_some v).symm, fun _ _ => trivial⟩
  exact of_quiet (Builtin.quiet b rfl rfl (fun _ _ => trivial) hlike)

end Run.KeepsTo

/-! ### All others -/

/-- A computation that leaves an arena with the property `P` behind; or, if the stack was too small
to trace that a scope was opened, such an arena with that scope left over. -/
def Run.EndsIn (s : Settings) (P : Arena → Prop) (x : Run α) (w : World) : Prop :=
  match x w with
  | .ok _ w' => P w'.arena
  | .error e w' =>
    P w'.arena ∨ e = .recursionLimit ∧ 0 < s.stack.trace ∧ ∃ a h, P a ∧ w'.arena = a.child h

lemma Run.EndsIn.mono {P Q : Arena → Prop} {x : Run α} {w : World} (h : x.EndsIn s P w)
    (hPQ : ∀ a, P a → Q a) : x.EndsIn s Q w := by
  unfold Run.EndsIn at h ⊢
  cases hx : x w with
  | ok v w' =>
      rw [hx] at h
      exact hPQ _ h
  | error e w' =>
      rw [hx] at h
      rcases h with hP | ⟨he, htrace, a, p, hP, ha⟩
      · exact Or.inl (hPQ _ hP)
      · exact Or.inr ⟨he, htrace, a, p, hPQ _ hP, ha⟩

/-- **Where nodes are evaluated**, and what an arena may look like if a scope is left over in it.
Both are kept up by calls. -/
structure Footing (s : Settings) where
  place : Arena → Handle → Prop
  left : Arena → Arena → Prop
  place_of_frame : ∀ {g : Handle} {a a' : Arena} {h : Handle}, Frame s g a a' → place a h →
    place a' h
  callee : ∀ {a : Arena} {h : Handle} scope, place a h → place a (s.frameParent scope h)
  frame : ∀ {a : Arena} {h : Handle}, place a h → place (a.child h) a.size
  left_child : ∀ {a : Arena} {h : Handle}, place a h → left a (a.child h)
  left_leave : ∀ {a a₁ a' : Arena} {h : Handle}, Frame s a.size (a.child h) a₁ → left a₁ a' →
    left (a₁.leave s a.size) (a'.leave s a.size)
  spilled : ∀ {a a' : Arena}, left a a' → a.Spilled a'

/-- Nodes may be evaluated anywhere. -/
def Footing.anywhere (s : Settings) : Footing s where
  place _ _ := True
  left := Arena.Spilled
  place_of_frame _ _ := trivial
  callee _ _ := trivial
  frame _ := trivial
  left_child _ := Or.inr ⟨_, rfl⟩
  left_leave hframe hleft := hleft.leave (Nat.le_of_lt hframe.size_lt)
  spilled h := h

/-- A run beside itself: the stage is the arena, and evaluations pass as `Frame` says. -/
def Coupling.within {s : Settings} (F : Footing s) : Coupling where
  Stage := Arena
  worlds a w w' := w' = w ∧ w.arena = a
  handles a h h' := h' = h ∧ F.place a h
  values _ v v' := v' = v
  faults e e' := e' = e
  passes g _ := Frame s g
  passes_refl _ _ := Frame.refl
  passes_trans := Frame.trans
  handles_passes hp h := ⟨h.1, F.place_of_frame hp h.2⟩
  values_passes _ h := h
  spills g _ a a' := 0 < s.stack.trace ∧ ∃ a₁, Frame s g a a₁ ∧ F.left a₁ a'
  spills_of_passes hp h := ⟨h.1, h.2.imp fun _ hh => ⟨hp.trans hh.1, hh.2⟩⟩

namespace Coupling

variable {α β : Type} {F : Footing s} {g g' : Handle}

/-- What keeps to a frame agrees with itself. -/
lemma within_of_keepsTo {R : Arena → α → α → Prop} {x : Run α} (hx : x.KeepsTo s g a)
    (hR : ∀ κ u, R κ u u) : (within F).Coupled g g' a R x x := by
  intro w w' hw
  obtain ⟨rfl, hw⟩ : w' = w ∧ w.arena = a := hw
  have hf := hx w' hw
  unfold Run.after at hf
  generalize x w' = r at hf ⊢
  cases r with
  | ok v w₁ => exact .ok hf ⟨rfl, rfl⟩ (hR _ v)
  | error e w₁ => exact .error (Or.inl hf) ⟨rfl, rfl⟩ rfl

lemma within_found (a : Arena) (found : Option Binding) : (within F).Found a found found := by
  match found with
  | none => exact .none
  | some (.builtin b) => exact .some (.builtin trivial)
  | some (.constant v) => exact .some (.constant rfl)

/-- What agrees comes about within the frame. -/
lemma endsIn_of_within {R : Arena → α → β → Prop} {x : Run α} {y : Run β} {w w' : World}
    (h : (within F).Outcomes g g' a R (x w) (y w')) : y.EndsIn s (Frame s g a) w' := by
  unfold Run.EndsIn
  generalize x w = r at h
  generalize y w' = r' at h ⊢
  cases h with
  | ok hp hw _ =>
      obtain ⟨rfl, rfl⟩ := hw
      exact hp
  | error hb hw he =>
      obtain ⟨rfl, rfl⟩ := hw
      cases he
      rcases hb with hp | ⟨hlimit, htrace, a₁, hframe, hleft⟩
      · exact Or.inl hp
      · rcases F.spilled hleft with heq | ⟨p, heq⟩
        · exact Or.inl (heq ▸ hframe)
        · exact Or.inr ⟨hlimit, htrace, a₁, p, hframe, heq⟩

/-- The primitive steps keep to `Frame`. -/
theorem within_laws (F : Footing s) : (within F).Laws s reclaimFrame reclaimFrame where
  forms _ _ _ _ := trivial
  unit _ := rfl
  literal _ _ := rfl
  reference _ _ := rfl
  shape h := by rw [h]
  callee hv hh := by
    cases hv
    exact ⟨by rw [hh.1], F.callee _ hh.2⟩
  fault _ := rfl
  notString _ hv := by rw [hv]; rfl
  log tracer message :=
    within_of_keepsTo (.of_quiet (Quiet.log tracer message message)) fun _ _ => trivial
  source path _ := within_of_keepsTo (.of_quiet (Quiet.readSource path)) fun _ _ => rfl
  lookup name hh := by
    cases hh.1
    exact within_of_keepsTo (.lookup _ name) within_found
  define name hh hv := by
    cases hh.1
    cases hv
    exact within_of_keepsTo (.define name _) fun _ _ => trivial
  make params body hh := by
    cases hh.1
    exact within_of_keepsTo (.make params body) fun _ _ => rfl
  apply {_ _ _ _ _ b args args'} _ hh ha := by
    cases hh.1
    have hargs : args' = args := (List.forall₂_eq_eq_eq ▸ ha.flip : args' = args)
    subst hargs
    exact within_of_keepsTo (.apply b _ args') fun _ _ => rfl
  call {a h h' w w'} hh hw := by
    obtain ⟨rfl, hplace⟩ := hh
    obtain ⟨rfl, rfl⟩ : w' = w ∧ w.arena = a := hw
    refine ⟨w'.arena.child h', ⟨rfl, w'.opened_arena h'⟩, ⟨rfl, F.frame hplace⟩, fun _ _ hv => hv,
      ⟨?_, ?_⟩⟩
    · intro a₂ w₂ w₂' hp hw
      obtain ⟨rfl, rfl⟩ : w₂' = w₂ ∧ w₂.arena = a₂ := hw
      exact ⟨w₂'.arena.leave s w'.arena.size, fun g _ => (Frame.leave hp).frame g,
        ⟨rfl, reclaimFrame_arena _ _⟩, fun _ _ hv => hv⟩
    · rintro a₂ w₂ w₂' ⟨htrace, a₁, hframe, hleft⟩ hw
      obtain ⟨rfl, rfl⟩ : w₂' = w₂ ∧ w₂.arena = a₂ := hw
      exact ⟨w₂'.arena.leave s w'.arena.size,
        fun g _ => ⟨htrace, _, hframe.leave.frame g, F.left_leave hframe hleft⟩,
        rfl, reclaimFrame_arena _ _⟩
  cramped {a h h' w w'} htrace hh hw := by
    obtain ⟨rfl, hplace⟩ := hh
    obtain ⟨rfl, rfl⟩ : w' = w ∧ w.arena = a := hw
    exact ⟨w'.arena.child h', fun g _ => ⟨htrace, w'.arena, Frame.refl _, F.left_child hplace⟩,
      rfl, rfl⟩

end Coupling

/-- **The frame theorem.**  Whatever an evaluation is nested in and however it ends, it changes no
scope that was there before but the one at hand, which keeps its parent and its names; a call
changes none at all.  Neither leaves scopes behind, unless a lambda holds on to one of them, or the
stack ran out when there was a scope to be traced that had just been opened: then that one may be
left over. -/
theorem evaluate_frame (s : Settings) (depth : Nat) (env : Handle) (w : World) :
    (∀ node : Node, (evaluateWith s reclaimFrame depth node env).EndsIn s (Frame s env w.arena) w) ∧
    (∀ (name : String) (binding : Binding) (args : List Value),
      (invokeWith s reclaimFrame depth (evaluateWith s reclaimFrame depth) name binding args
        env).EndsIn s (Spares s w.arena) w) := by
  have L := Coupling.within_laws (.anywhere s)
  have hev : (Coupling.within (.anywhere s)).Matches _ _ := L.evaluateWith depth
  refine ⟨fun node => ?_, fun name binding args => ?_⟩
  · exact Coupling.endsIn_of_within (hev trivial ⟨rfl, trivial⟩ w w ⟨rfl, rfl⟩)
  · -- no name is bound in the scope of a call, so a scope that is not there may stand for it
    have hb : (Coupling.within (.anywhere s)).Bound w.arena binding binding := by
      cases binding with
      | builtin b => exact .builtin trivial
      | constant v => exact .constant rfl
    have hcall : (Coupling.within (.anywhere s)).Coupled w.arena.size w.arena.size w.arena _
        (invokeWithin s reclaimFrame depth (evaluateWith s reclaimFrame depth) s.stack.forwards
          name binding args env) _ :=
      L.invokeWithin hev ⟨rfl, trivial⟩ (List.forall₂_same.mpr fun _ _ => rfl) hb
    exact (Coupling.endsIn_of_within (hcall w w ⟨rfl, rfl⟩)).mono fun _ h =>
      h.spares (Nat.le_refl _)

/-! ## A scope that is left over -/

/-- A node inside of so many sequences. -/
def Node.sequenced : Nat → Node → Node
  | 0, node => node
  | n + 1, node => .list [.symbol "progn", sequenced n node]

/-- Each sequence takes one more evaluation and does nothing else. -/
lemma evaluateWith_sequenced {leave : Leave} {w : World} (hw : w.verbose = false) (depth : Nat)
    (node : Node) (n : Nat) : evaluateWith s leave (depth + n) (node.sequenced n) env w =
      evaluateWith s leave depth node env w := by
  induction n with
  | zero => rfl
  | succ n ih =>
      have hlog : Run.log .evaluator (fun _ => "special form " ++ "progn") w = .ok () w := by
        show EStateM.Result.ok () (w.trace _ _) = _
        rw [World.trace, hw]
        rfl
      show ((Run.log .evaluator fun _ => "special form " ++ "progn") >>= fun _ =>
        evaluateWith s leave (depth + n) (node.sequenced n) env >>= pure) w = _
      rw [bind_of_ok hlog, bind_pure, ih]

/-- The innermost of so many sequences that the stack is just full calls a lambda.  The scope that
was opened for the call is left over, although the scoping is dynamic and no lambda holds on to
it. -/
theorem evaluate_spills :
    let a := Arena.fresh.define 0 "f" (.lambda [] [.literal (.integer 1)] none)
    let run := evaluate {} ((Node.list [.symbol "f"]).sequenced 999) 0
    a.Rooted ∧ a.Binds (a.Holds ·.scope) ∧
      run { arena := a } = .error .recursionLimit { arena := a.child 0 } ∧
      ¬ Frame {} 0 a (run.after { arena := a }).arena := by
  intro a run
  have hrun : run { arena := a } = .error .recursionLimit { arena := a.child 0 } :=
    (evaluateWith_sequenced rfl 1 (.list [.symbol "f"]) 999).trans rfl
  refine ⟨Arena.rooted_fresh.define 0 "f" _, ?_, hrun, fun hframe => ?_⟩
  · exact (Arena.Binds.entries_iff.mpr .fresh).define 0 "f" (by simp [Value.closures_lambda])
  · rw [Run.after, hrun] at hframe
    exact absurd (hframe.dynamic rfl) (by decide)

end ArenaLisp
