import ArenaLisp.Proofs.Frame
import Mathlib.Logic.Function.Basic

/-!
# Reclaiming frames cannot be observed

Scopes are named by index, and indices are used again once a frame was released.  An evaluator that
never released a frame would never use an index twice.  Scripts cannot tell the two apart.

The proof runs them side by side.  Each live scope of the *tidy* run stands for one scope of the
*lavish* one, and the handles that values carry are renamed accordingly.  When a frame is released
the renaming only gets smaller: no lambda that is still around holds on to a scope that goes.

* `Mirrors` — an arena that is a renamed copy of another, with further scopes in between.
* `Coupling.release` — the comparison of the two runs.
* `Observation`, `observations` — what can be seen of a sequence of runs.
* **`reclaimFrame_unobservable`** — the two runs show the same.
-/

namespace ArenaLisp

/-- An evaluator that never gives a frame back. -/
def keepFrame : Leave := fun _ _ w => w

/-- A scope with every handle in it renamed. -/
def Scope.rename (ρ : Nat → Nat) (sc : Scope) : Scope where
  bindings := sc.bindings.map fun entry => (entry.1, entry.2.rescope (some ∘ ρ))
  parent := sc.parent.map ρ
  captured := sc.captured

/-- The arena `a'` holds a copy of the arena `a`, the scope `i` at the index `ρ i`; the copies come
in the same order, and whatever lambda is bound in `a` holds on to a held scope. -/
structure Mirrors (ρ : Nat → Nat) (a a' : Arena) : Prop where
  rooted : a.Rooted
  binds : a.Binds (a.Holds ·.scope)
  mono : ∀ i j, i < j → j < a.size → ρ i < ρ j
  scope : ∀ i, i < a.size → a'.scope? (ρ i) = (a.scope? i).map (Scope.rename ρ)

/-! ## Tables of renamed bindings -/

section Tables

variable {κ α β : Type} (f : α → β)

lemma Ordered.get?_map [DecidableEq κ] (key : κ) (t : Ordered κ α) :
    get? key (t.map fun entry => (entry.1, f entry.2)) = (get? key t).map f := by
  induction t with
  | nil => rfl
  | cons first rest ih =>
      by_cases h : first.1 = key
      · simp [get?, h]
      · simpa [get?, h] using ih

lemma Ordered.put_map [DecidableEq κ] (key : κ) (value : α) (t : Ordered κ α) :
    put key (f value) (t.map fun entry => (entry.1, f entry.2)) =
      (put key value t).map fun entry => (entry.1, f entry.2) := by
  induction t with
  | nil => rfl
  | cons first rest ih =>
      by_cases h : first.1 = key
      · simp [put, h]
      · simpa [put, h] using ih

lemma Ordered.keys_map (t : Ordered κ α) :
    keys (t.map fun entry => (entry.1, f entry.2)) = keys t := by
  simp [keys, Function.comp_def]

end Tables

namespace Scope

variable (ρ : Nat → Nat)

lemma get?_rename (sc : Scope) (name : String) :
    (sc.rename ρ).get? name = (sc.get? name).map (·.rescope (some ∘ ρ)) :=
  Ordered.get?_map (Binding.rescope (some ∘ ρ)) name sc.bindings

@[simp] lemma names_rename (sc : Scope) : (sc.rename ρ).names = sc.names :=
  Ordered.keys_map (Binding.rescope (some ∘ ρ)) sc.bindings

lemma insert_rename (sc : Scope) (name : String) (binding : Binding) :
    (sc.rename ρ).insert name (binding.rescope (some ∘ ρ)) = (sc.insert name binding).rename ρ := by
  simp only [rename, insert]
  rw [Ordered.put_map (Binding.rescope (some ∘ ρ))]

lemma rename_id (sc : Scope) : sc.rename id = sc := by
  simp only [rename, Function.comp_id, Binding.rescope_some, List.map_id', Option.map_id, id]

end Scope

/-! ## The way to the root in a copy -/

namespace Arena

variable {ρ : Nat → Nat}

lemma lookupAlong_rename (name : String) (way : List (Option Scope)) :
    lookupAlong name (way.map (Option.map (Scope.rename ρ))) =
      (lookupAlong name way).map (Option.map (·.rescope (some ∘ ρ))) := by
  induction way with
  | nil => rfl
  | cons first rest ih =>
      cases first with
      | none => rfl
      | some sc =>
          simp only [List.map_cons, Option.map_some, lookupAlong, Scope.get?_rename]
          cases sc.get? name with
          | none => exact ih
          | some binding => rfl

lemma namesAlong_rename (way : List (Option Scope)) :
    namesAlong (way.map (Option.map (Scope.rename ρ))) = namesAlong way := by
  induction way with
  | nil => rfl
  | cons first rest ih =>
      cases first with
      | none => rfl
      | some sc =>
          simp only [List.map_cons, Option.map_some, namesAlong, Scope.names_rename]
          rw [ih]

end Arena

namespace Mirrors

variable {ρ : Nat → Nat} {a a' : Arena}

lemma lt_size (h : Mirrors ρ a a') {i : Nat} (hi : i < a.size) : ρ i < a'.size := by
  obtain ⟨sc, hs⟩ := Arena.exists_scope hi
  exact Arena.lt_size (by rw [h.scope i hi, hs]; rfl)

/-- The copy of a way to the root is the way of the copy: parents come before their children on
both sides, so neither way is cut short. -/
lemma chainFrom (h : Mirrors ρ a a') : ∀ (n n' : Nat) {i : Nat}, i < n → ρ i < n' → i < a.size →
    a'.chainFrom n' (ρ i) = (a.chainFrom n i).map (Option.map (Scope.rename ρ)) := by
  intro n
  induction n with
  | zero =>
      intro n' i hn
      omega
  | succ n ih =>
      intro n' i hn hn' hi
      obtain ⟨m, rfl⟩ := Nat.exists_eq_succ_of_ne_zero (Nat.ne_zero_of_lt hn')
      obtain ⟨sc, hs⟩ := Arena.exists_scope hi
      have hs' := h.scope i hi
      rw [hs, Option.map_some] at hs'
      cases hp : sc.parent with
      | none => simp [Arena.chainFrom, hs, hs', hp, Scope.rename]
      | some p =>
          have hlt := h.rooted.parent_lt hs hp
          have hρ := h.mono p i hlt hi
          have hrest := ih m (i := p) (by omega) (by omega) (Nat.lt_trans hlt hi)
          simp [Arena.chainFrom, hs, hs', hp, Scope.rename, hrest]

lemma chain (h : Mirrors ρ a a') {i : Nat} (hi : i < a.size) :
    a'.chain (ρ i) = (a.chain i).map (Option.map (Scope.rename ρ)) :=
  h.chainFrom _ _ (by omega) (by have := h.lt_size hi; omega) hi

lemma lookup (h : Mirrors ρ a a') {i : Nat} (hi : i < a.size) (name : String) :
    a'.lookup (ρ i) name = (a.lookup i name).map (Option.map (·.rescope (some ∘ ρ))) := by
  rw [Arena.lookup, h.chain hi, Arena.lookupAlong_rename, Arena.lookup]

lemma names (h : Mirrors ρ a a') {i : Nat} (hi : i < a.size) : a'.names (ρ i) = a.names i := by
  rw [Arena.names, h.chain hi, Arena.namesAlong_rename, Arena.names]

lemma localNames (h : Mirrors ρ a a') {i : Nat} (hi : i < a.size) :
    a'.localNames (ρ i) = a.localNames i := by
  unfold Arena.localNames
  rw [h.scope i hi]
  cases a.scope? i <;> simp

/-! ## The operations on both arenas -/

lemma inj (h : Mirrors ρ a a') {i j : Nat} (hi : i < a.size) (hj : j < a.size)
    (heq : ρ i = ρ j) : i = j := by
  rcases Nat.lt_trichotomy i j with hlt | rfl | hlt
  · exact absurd heq (Nat.ne_of_lt (h.mono i j hlt hj))
  · rfl
  · exact absurd heq.symm (Nat.ne_of_lt (h.mono j i hlt hi))

/-- A scope mentions live scopes only, so the copy depends on the indices of those alone. -/
lemma rename_congr (h : Mirrors ρ a a') {σ : Nat → Nat} (hσ : ∀ i, i < a.size → σ i = ρ i)
    {i : Nat} {sc : Scope} (hs : a.scope? i = some sc) : sc.rename σ = sc.rename ρ := by
  have hbindings : ∀ entry ∈ sc.bindings,
      (entry.1, entry.2.rescope (some ∘ σ)) = (entry.1, entry.2.rescope (some ∘ ρ)) := by
    intro entry he
    have hheld := h.binds i sc hs entry he
    rcases entry with ⟨name, b | v⟩
    · rfl
    · have hv : v.rescope (some ∘ σ) = v.rescope (some ∘ ρ) :=
        Value.rescope_congr fun c hc => congrArg some (hσ c.scope (hheld c hc).lt_size)
      simp only [Binding.rescope, hv]
  have hparent : sc.parent.map σ = sc.parent.map ρ := by
    cases hp : sc.parent with
    | none => rfl
    | some p =>
        have hlt := h.rooted.parent_lt hs hp
        exact congrArg some (hσ p (Nat.lt_trans hlt (Arena.lt_size hs)))
  simp only [Scope.rename, List.map_congr_left hbindings, hparent]

/-- A frame is opened on both sides, and the one stands for the other. -/
lemma child (h : Mirrors ρ a a') {p : Nat} (hp : p < a.size) :
    Mirrors (Function.update ρ a.size a'.size) (a.child p) (a'.child (ρ p)) := by
  have hold : ∀ i, i < a.size → Function.update ρ a.size a'.size i = ρ i :=
    fun i hi => Function.update_of_ne (Nat.ne_of_lt hi) _ _
  refine ⟨h.rooted.child hp, (h.binds.mono fun c => Arena.holds_child.mpr).child p, ?_, ?_⟩
  · intro i j hij hj
    rw [Arena.size_child] at hj
    rw [hold i (by omega)]
    rcases Nat.lt_succ_iff_lt_or_eq.mp hj with hj | rfl
    · rw [hold j hj]
      exact h.mono i j hij hj
    · rw [Function.update_self]
      exact h.lt_size hij
  · intro i hi
    rw [Arena.size_child] at hi
    rcases Nat.lt_succ_iff_lt_or_eq.mp hi with hi | rfl
    · rw [hold i hi, Arena.scope?_child_of_lt (h.lt_size hi), Arena.scope?_child_of_lt hi,
        h.scope i hi]
      obtain ⟨sc, hs⟩ := Arena.exists_scope hi
      rw [hs, Option.map_some, Option.map_some, h.rename_congr hold hs]
    · rw [Function.update_self, Arena.scope?_child, if_pos rfl, Arena.scope?_child, if_pos rfl,
        Option.map_some, Scope.rename, Option.map_some, hold p hp]
      rfl

lemma update (h : Mirrors ρ a a') {k : Nat} (hk : k < a.size) {f f' : Scope → Scope}
    (hf : ∀ sc : Scope, f' (sc.rename ρ) = (f sc).rename ρ) (hrooted : (a.update k f).Rooted)
    (hbinds : (a.update k f).Binds ((a.update k f).Holds ·.scope)) :
    Mirrors ρ (a.update k f) (a'.update (ρ k) f') := by
  refine ⟨hrooted, hbinds, fun i j hij hj => h.mono i j hij (by rwa [Arena.size_update] at hj), ?_⟩
  intro i hi
  rw [Arena.size_update] at hi
  rw [Arena.scope?_update, Arena.scope?_update, h.scope i hi]
  by_cases hik : i = k
  · rw [if_pos (congrArg ρ hik), if_pos hik]
    cases a.scope? i with
    | none => rfl
    | some sc => exact congrArg some (hf sc)
  · rw [if_neg (fun heq => hik (h.inj hi hk heq)), if_neg hik]

lemma define (h : Mirrors ρ a a') {k : Nat} (hk : k < a.size) (name : String) {v v' : Value}
    (hv : v.Like (some ∘ ρ) (a.Holds ·.scope) v') :
    Mirrors ρ (a.define k name v) (a'.define (ρ k) name v') := by
  obtain ⟨rfl, hheld⟩ := hv
  refine h.update hk (fun sc => Scope.insert_rename ρ sc name (.constant v))
    (h.rooted.define k name v) ?_
  exact (h.binds.define k name hheld).mono fun c => Arena.holds_define.mpr

lemma capture (h : Mirrors ρ a a') {k : Nat} (hk : k < a.size) :
    Mirrors ρ (a.capture k) (a'.capture (ρ k)) :=
  h.update hk (fun _ => rfl) (h.rooted.capture k)
    ((h.binds.capture k).mono fun _ hc => Arena.holds_capture.mpr (Or.inr hc))

/-- A frame is released on one side only.  Nothing that is still around refers to it. -/
lemma release (h : Mirrors ρ a a') {n : Nat} (hn : 0 < n) (hheld : ∀ i, a.Holds i → i < n) :
    Mirrors ρ (a.release n) a' := by
  have hlt : ∀ i, i < (a.release n).size → i < n ∧ i < a.size := by
    intro i hi
    rw [Arena.size_release] at hi
    omega
  refine ⟨h.rooted.release hn, ?_, fun i j hij hj => h.mono i j hij (hlt j hj).2, ?_⟩
  · exact (h.binds.release n).mono fun c hc => Arena.holds_release.mpr ⟨hheld _ hc, hc⟩
  · intro i hi
    rw [h.scope i (hlt i hi).2, Arena.scope?_release, if_pos (hlt i hi).1]

end Mirrors

/-- Opening a frame changes nothing but the arena and the trace. -/
lemma World.Agree.opened {w w' : World} (h : w.Agree w') (p p' : Handle) :
    (w.opened p).Agree (w'.opened p') :=
  (h.withArena _ _).trace _ _ _ _

/-- Leaving a frame changes nothing but the arena and the trace. -/
lemma World.Agree.reclaimFrame {w w' : World} (h : w.Agree w') (s : Settings) (frame : Handle) :
    (ArenaLisp.reclaimFrame s frame w).Agree w' := by
  unfold ArenaLisp.reclaimFrame World.release World.trace
  split_ifs <;> exact ⟨h.input, h.output, h.files, h.environ, h.platform⟩

/-! ## The two runs -/

/-- How far two runs have come: the arena of the one, and where its scopes are in the other. -/
structure Renaming where
  index : Nat → Nat
  arena : Arena

/-- A run that reclaims frames beside one that keeps them.  While nodes are evaluated, scopes that
are still there keep their copies. -/
def Coupling.release (s : Settings) : Coupling where
  Stage := Renaming
  worlds κ w w' := w.arena = κ.arena ∧ Mirrors κ.index κ.arena w'.arena ∧ w.Agree w'
  handles κ h h' := h < κ.arena.size ∧ h' = κ.index h
  values κ := Value.Like (some ∘ κ.index) (κ.arena.Holds ·.scope)
  faults e e' := e'.bare = e.bare
  passes g _ κ κ' :=
    (∀ i, i < κ.arena.size → κ'.index i = κ.index i) ∧ Frame s g κ.arena κ'.arena
  passes_refl _ _ κ := ⟨fun _ _ => rfl, .refl κ.arena⟩
  passes_trans h h' :=
    ⟨fun i hi => (h'.1 i (Nat.lt_of_lt_of_le hi h.2.size_le)).trans (h.1 i hi), h.2.trans h'.2⟩
  handles_passes hp h := ⟨Nat.lt_of_lt_of_le h.1 hp.2.size_le, by rw [hp.1 _ h.1, h.2]⟩
  values_passes hp h := by
    refine ⟨?_, fun c hc => hp.2.holds (h.2 c hc)⟩
    rw [h.1]
    exact Value.rescope_congr fun c hc => congrArg some (hp.1 _ (h.2 c hc).lt_size).symm
  spills g _ κ κ' :=
    (∀ i, i < κ.arena.size → κ'.index i = κ.index i) ∧ Spills s g κ.arena κ'.arena
  spills_of_passes h h' :=
    ⟨fun i hi => (h'.1 i (Nat.lt_of_lt_of_le hi h.2.size_le)).trans (h.1 i hi), h'.2.of_frame h.2⟩

namespace Coupling

variable {α : Type} {s : Settings} {g g' : Handle} {κ : Renaming}

lemma release_worlds_iff {w w' : World} : (release s).worlds κ w w' ↔
    w.arena = κ.arena ∧ Mirrors κ.index κ.arena w'.arena ∧ w.Agree w' :=
  Iff.rfl

lemma release_handles_iff {h h' : Handle} : (release s).handles κ h h' ↔
    h < κ.arena.size ∧ h' = κ.index h :=
  Iff.rfl

/-- However an evaluation ends, the scopes that were there before have the same copies. -/
lemma Breaks.index {e : Fault} {κ' : Renaming} (h : (release s).Breaks g g' e κ κ') :
    ∀ i, i < κ.arena.size → κ'.index i = κ.index i :=
  h.elim (·.1) (·.2.1)

lemma Breaks.size_le {e : Fault} {κ' : Renaming} (h : (release s).Breaks g g' e κ κ') :
    κ.arena.size ≤ κ'.arena.size :=
  h.elim (·.2.size_le) (·.2.2.size_le)

/-- A computation that leaves both arenas alone passes no stage. -/
lemma release_of_quiet {R : α → α → Prop} {x y : Run α}
    (h : ∀ a', Mirrors κ.index κ.arena a' →
      Quiet (some ∘ κ.index) (κ.arena.Holds ·.scope) True κ.arena a' R x y) :
    (release s).Coupled g g' κ (fun κ' u v => κ' = κ ∧ R u v) x y := by
  intro w w' hw
  obtain ⟨ha, hm, hagree⟩ := release_worlds_iff.mp hw
  have hr := h w'.arena hm w w' ⟨ha, rfl, hagree⟩
  have hp := (release s).passes_refl g g' κ
  generalize x w = r at hr ⊢
  generalize y w' = r' at hr ⊢
  cases hr with
  | ok _ hw₁ hR => exact .ok hp ⟨hw₁.1, hw₁.2.1 ▸ hm, hw₁.2.2⟩ ⟨rfl, hR⟩
  | error _ hw₁ he =>
      refine .error (Or.inl hp) ⟨hw₁.1, hw₁.2.1 ▸ hm, hw₁.2.2⟩ ?_
      obtain ⟨rfl, -⟩ := he
      exact Fault.bare_rescope _ _

/-- A binding of the one arena agrees with its copy. -/
lemma release_bound {binding : Binding}
    (hb : ∀ c ∈ binding.closures, κ.arena.Holds c.scope) :
    (release s).Bound κ binding (binding.rescope (some ∘ κ.index)) := by
  cases binding with
  | builtin b => exact .builtin trivial
  | constant v => exact .constant ⟨rfl, hb⟩

lemma release_lookup {h h' : Handle} (name : String) (hh : (release s).handles κ h h') :
    (release s).Coupled g g' κ (release s).Found (Run.lookup h name) (Run.lookup h' name) := by
  intro w w' hw
  obtain ⟨ha, hm, hagree⟩ := release_worlds_iff.mp hw
  obtain ⟨hlt, rfl⟩ := release_handles_iff.mp hh
  have hp := (release s).passes_refl g g' κ
  obtain ⟨found, hfound, hmem⟩ := hm.rooted.lookup_ok hlt name
  rw [Run.lookup_eq, Run.lookup_eq, hm.lookup hlt, ha, hfound]
  refine .ok hp ⟨ha, hm, hagree⟩ ?_
  cases found with
  | none => exact .none
  | some binding =>
      obtain ⟨j, sc, hs, hin⟩ := hmem binding rfl
      exact .some (release_bound (hm.binds j sc hs _ hin))

lemma release_define {h h' : Handle} {v v' : Value} (name : String)
    (hh : (release s).handles κ h h') (hv : (release s).values κ v v') :
    (release s).Coupled h h' κ (fun _ _ _ => True) (Run.define h name v)
      (Run.define h' name v') := by
  intro w w' hw
  obtain ⟨ha, hm, hagree⟩ := release_worlds_iff.mp hw
  obtain ⟨hlt, rfl⟩ := release_handles_iff.mp hh
  rw [Run.define_of_live (ha ▸ hlt), Run.define_of_live (hm.lt_size hlt), ha]
  let κ' : Renaming := ⟨κ.index, κ.arena.define h name v⟩
  have hp : (release s).passes h (κ.index h) κ κ' := ⟨fun _ _ => rfl, Frame.define name v⟩
  exact .ok hp ⟨rfl, hm.define hlt name hv, hagree.withArena _ _⟩ trivial

lemma release_make {h h' : Handle} (params : List String) (body : List Node)
    (hh : (release s).handles κ h h') :
    (release s).Coupled h h' κ (release s).values (makeLambda s params body h)
      (makeLambda s params body h') := by
  obtain ⟨hlt, rfl⟩ := release_handles_iff.mp hh
  unfold makeLambda
  cases hs : s.scoping with
  | dynamic => exact .pure ⟨by simp, by simp [Value.closures_lambda]⟩
  | lexical =>
      -- the scope is held from here on, on both sides
      let κ' : Renaming := ⟨κ.index, κ.arena.capture h⟩
      have hp : (release s).passes h (κ.index h) κ κ' := ⟨fun _ _ => rfl, Frame.capture hs⟩
      have hheld : κ'.arena.Holds h := Arena.holds_capture.mpr (Or.inl ⟨rfl, hlt⟩)
      refine Coupled.bind (R := fun κ₁ _ _ => κ₁ = κ') ?_ ?_
      · intro w w' hw
        obtain ⟨ha, hm, hagree⟩ := release_worlds_iff.mp hw
        rw [Run.capture_of_live (ha ▸ hlt), Run.capture_of_live (hm.lt_size hlt), ha]
        exact .ok hp ⟨rfl, hm.capture hlt, hagree.withArena _ _⟩ rfl
      · rintro κ₁ _ _ _ rfl
        refine .pure ⟨by simp [κ'], ?_⟩
        simpa [Value.closures_lambda] using hheld

/-- Leaving a frame.  It is released, and then no lambda holds on to it; or it is kept, and then
nothing changes. -/
lemma release_leave {a : Arena} {p n' : Handle} {w w' : World} (ha : 0 < a.size)
    (hspills : Spills s a.size (a.child p) κ.arena) (hw : (release s).worlds κ w w') :
    let κ' : Renaming := ⟨κ.index, κ.arena.leave s a.size⟩
    (release s).worlds κ' (reclaimFrame s a.size w) (keepFrame s n' w') ∧
      ∀ v v', (release s).values κ v v' → (release s).values κ' v v' := by
  obtain ⟨hw, hm, hagree⟩ := release_worlds_iff.mp hw
  have harena : (reclaimFrame s a.size w).arena = κ.arena.leave s a.size := by
    rw [reclaimFrame_arena, hw]
  have hagree' : (reclaimFrame s a.size w).Agree w' := hagree.reclaimFrame s _
  rcases hspills.leave_cases with ⟨heq, hheld⟩ | ⟨heq, -, -⟩
  · rw [heq] at harena ⊢
    refine ⟨⟨harena, hm.release ha hheld, hagree'⟩, fun v v' hv => ⟨hv.1, fun c hc => ?_⟩⟩
    exact Arena.holds_release.mpr ⟨hheld _ (hv.2 c hc), hv.2 c hc⟩
  · rw [heq] at harena ⊢
    exact ⟨⟨harena, hm, hagree'⟩, fun _ _ hv => hv⟩

/-- A scope is opened on both sides, and the one stands for the other. -/
lemma release_child {h h' : Handle} {w w' : World} (hh : (release s).handles κ h h')
    (hw : (release s).worlds κ w w') :
    let κ₁ : Renaming :=
      ⟨Function.update κ.index κ.arena.size w'.arena.size, κ.arena.child h⟩
    (release s).worlds κ₁ (w.withArena (w.arena.child h)) (w'.withArena (w'.arena.child h')) ∧
      ∀ i, i < κ.arena.size → κ₁.index i = κ.index i := by
  obtain ⟨ha, hm, hagree⟩ := release_worlds_iff.mp hw
  obtain ⟨hlt, rfl⟩ := release_handles_iff.mp hh
  refine ⟨⟨?_, hm.child hlt, hagree.withArena _ _⟩, fun i hi => ?_⟩
  · rw [World.withArena_arena, ha]
  · exact Function.update_of_ne (Nat.ne_of_lt hi) _ _

/-- Entering a frame, and leaving it whatever happened in it. -/
lemma release_call {h h' : Handle} {w w' : World} (hh : (release s).handles κ h h')
    (hw : (release s).worlds κ w w') :
    ∃ κ₁, (release s).worlds κ₁ (w.opened h) (w'.opened h') ∧
      (release s).handles κ₁ w.arena.size w'.arena.size ∧
      (∀ v v', (release s).values κ v v' → (release s).values κ₁ v v') ∧
      (release s).CanLeave (reclaimFrame s w.arena.size) (keepFrame s w'.arena.size) w.arena.size
        w'.arena.size κ κ₁ := by
  obtain ⟨ha, hm, -⟩ := release_worlds_iff.mp hw
  obtain ⟨⟨ha₁, hm₁, hagree₁⟩, hold⟩ := release_child hh hw
  rw [ha]
  let κ₁ : Renaming :=
    ⟨Function.update κ.index κ.arena.size w'.arena.size, κ.arena.child h⟩
  have hw₁ : (release s).worlds κ₁ (w.opened h) (w'.opened h') := by
    refine ⟨by rw [World.opened_arena, ha], ?_, hagree₁.trace _ _ _ _⟩
    rw [World.opened_arena]
    exact hm₁
  -- what happens in the frame leaves the copies of older scopes alone
  have hindex : ∀ {κ₂ : Renaming}, (∀ i, i < κ₁.arena.size → κ₂.index i = κ₁.index i) →
      ∀ i, i < κ.arena.size → κ₂.index i = κ.index i := by
    intro κ₂ hκ₂ i hi
    have hi₁ : i < κ₁.arena.size := by simp only [κ₁, Arena.size_child]; omega
    exact (hκ₂ i hi₁).trans (hold i hi)
  refine ⟨κ₁, hw₁, ⟨by simp [κ₁], by simp [κ₁]⟩, ?_, ⟨?_, ?_⟩⟩
  · intro v v' hv
    refine ⟨?_, fun c hc => Arena.holds_child.mpr (hv.2 c hc)⟩
    rw [hv.1]
    exact Value.rescope_congr fun c hc => congrArg some (hold _ (hv.2 c hc).lt_size).symm
  · rintro κ₂ w₂ w₂' ⟨hκ₂, hframe⟩ hw₂
    exact ⟨⟨κ₂.index, κ₂.arena.leave s κ.arena.size⟩,
      fun g _ => ⟨hindex hκ₂, (Frame.leave hframe).frame g⟩,
      release_leave hm.rooted.size_pos (Frame.spills hframe) hw₂⟩
  · rintro κ₂ w₂ w₂' ⟨hκ₂, hspills⟩ hw₂
    obtain ⟨a₁, hspares, hspilled⟩ := Spills.leave hspills
    exact ⟨⟨κ₂.index, κ₂.arena.leave s κ.arena.size⟩,
      fun g _ => ⟨hindex hκ₂, a₁, hspares.frame g, hspilled⟩,
      (release_leave hm.rooted.size_pos hspills hw₂).1⟩

/-- The primitive steps keep up the comparison. -/
theorem release_laws (s : Settings) : (release s).Laws s reclaimFrame keepFrame where
  forms _ _ _ _ := trivial
  unit _ := Value.like_plain (by simp) (by simp)
  literal _ _ := Value.like_plain (by simp) (by simp)
  reference _ _ := Value.like_plain (by simp) (by simp)
  shape h := by rw [h.1, Value.bare_rescope]
  callee := by
    intro κ params body scope scope' h h' hv hh
    obtain ⟨heq, hheld⟩ := hv
    obtain rfl : scope' = scope.bind (some ∘ κ.index) := by simpa using heq
    unfold Settings.frameParent
    cases s.scoping with
    | dynamic => exact hh
    | lexical =>
        cases scope with
        | none => exact hh
        | some i =>
            have hi : κ.arena.Holds i := hheld ⟨params, body, i⟩ (by simp [Value.closures_lambda])
            exact ⟨hi.lt_size, rfl⟩
  fault _ := rfl
  notString form hv := by
    obtain ⟨rfl, -⟩ := hv
    exact Fault.bare_rescope _ (.eval (.formNotString form _))
  log tracer message := fun w w' hw =>
    (release_of_quiet (fun _ _ => Quiet.log tracer message message) w w' hw).imp
      fun _ _ _ _ => trivial
  source path _ := fun w w' hw =>
    (release_of_quiet (fun _ _ => Quiet.readSource path) w w' hw).imp fun _ _ _ h => h.2
  lookup name hh := release_lookup name hh
  define name hh hv := release_define name hh hv
  make params body hh := release_make params body hh
  apply _ hh ha := fun w w' hw => by
    obtain ⟨hlt, rfl⟩ := hh
    refine (release_of_quiet (fun a' hm => Builtin.quiet _ (hm.localNames hlt) (hm.names hlt)
      (fun _ _ => trivial) ha) w w' hw).imp ?_
    rintro _ _ _ ⟨rfl, hv⟩
    exact hv
  call hh hw := release_call hh hw
  cramped {κ h h' w w'} _ hh hw := by
    obtain ⟨hw₁, hold⟩ := release_child hh hw
    exact ⟨_, fun g _ => ⟨hold, κ.arena, Frame.refl _, Or.inr ⟨h, rfl⟩⟩, hw₁⟩

end Coupling

/-! ## What can be seen of a run -/

/-- What can be seen of a run once it has ended: its value, or its fault and the message of it; what
has been printed so far; and the names bound in the root scope with what they stand for.  Nothing
shows which scope a lambda holds on to. -/
structure Observation where
  outcome : Except (Fault × String) Value
  output : String
  bindings : Option (Ordered String Binding)

/-- What can be seen of an outcome. -/
def observe : EStateM.Result Fault World Value → Observation
  | .ok value w => ⟨.ok value.bare, w.output, rootBindings w⟩
  | .error fault w => ⟨.error (fault.bare, fault.message), w.output, rootBindings w⟩
where
  /-- The bindings of the root scope, in the order in which their names were first bound. -/
  rootBindings (w : World) : Option (Ordered String Binding) :=
    (w.arena.scope? 0).map fun sc => sc.bindings.map fun entry => (entry.1, entry.2.bare)

/-- The sources of a sequence of runs, each with its own settings, run one after the other in the
root scope: what can be seen of each, and each run starts where the one before it ended. -/
def observations (leave : Leave) (depth : Nat) : List (Settings × String) → World → List Observation
  | [], _ => []
  | (s, source) :: rest, w =>
    let run := runWith (evaluateWith s leave depth) source 0
    observe (run w) :: observations leave depth rest (run.after w)

/-- The root scope and its copy show the same bindings. -/
lemma Mirrors.rootBindings {ρ : Nat → Nat} {w w' : World} (hm : Mirrors ρ w.arena w'.arena)
    (hroot : ρ 0 = 0) : observe.rootBindings w' = observe.rootBindings w := by
  have hs := hm.scope 0 hm.rooted.size_pos
  rw [hroot] at hs
  unfold observe.rootBindings
  rw [hs]
  cases w.arena.scope? 0 <;> simp [Scope.rename]

/-- One run, made both ways from worlds that mirror each other: it shows the same, and the worlds
mirror each other afterwards. -/
lemma run_observed (s : Settings) (depth : Nat) (source : String) {ρ : Nat → Nat} {w w' : World}
    (hm : Mirrors ρ w.arena w'.arena) (hagree : w.Agree w') (hroot : ρ 0 = 0) :
    let run := runWith (evaluateWith s reclaimFrame depth) source 0
    let run' := runWith (evaluateWith s keepFrame depth) source 0
    observe (run w) = observe (run' w') ∧
      ∃ σ, Mirrors σ (run.after w).arena (run'.after w').arena ∧
        (run.after w).Agree (run'.after w') ∧ σ 0 = 0 := by
  intro run run'
  have L := Coupling.release_laws s
  have hev : (Coupling.release s).Matches _ _ := L.evaluateWith depth
  have hr : (Coupling.release s).Outcomes 0 0 ⟨ρ, w.arena⟩ (Coupling.release s).values
      (run w) (run' w') :=
    L.runWith hev source ⟨hm.rooted.size_pos, hroot.symm⟩ w w' ⟨rfl, hm, hagree⟩
  -- what a stage says about the two worlds at the end
  have hend : ∀ {κ : Renaming} {w₁ w₁' : World},
      (∀ i, i < w.arena.size → κ.index i = ρ i) → (Coupling.release s).worlds κ w₁ w₁' →
      Mirrors κ.index w₁.arena w₁'.arena ∧ w₁.Agree w₁' ∧ κ.index 0 = 0 := by
    rintro κ w₁ w₁' hκ ⟨ha, hm₁, hagree₁⟩
    exact ⟨ha ▸ hm₁, hagree₁, (hκ 0 hm.rooted.size_pos).trans hroot⟩
  unfold Run.after
  generalize run w = r at hr ⊢
  generalize run' w' = r' at hr ⊢
  cases hr with
  | ok hp hw₁ hv =>
      obtain ⟨hm₁, hagree₁, hroot₁⟩ := hend hp.1 hw₁
      refine ⟨?_, _, hm₁, hagree₁, hroot₁⟩
      simp only [observe, hv.1, Value.bare_rescope, hagree₁.output,
        hm₁.rootBindings hroot₁]
  | @error _ e e' _ _ hb hw₁ he =>
      obtain ⟨hm₁, hagree₁, hroot₁⟩ := hend hb.index hw₁
      have hbare : e'.bare = e.bare := he
      refine ⟨?_, _, hm₁, hagree₁, hroot₁⟩
      simp only [observe, hbare, Fault.message_eq_of_bare he, hagree₁.output,
        hm₁.rootBindings hroot₁]

/-- The induction is on the runs: each leaves the worlds such that the next one shows the same. -/
lemma observations_eq (depth : Nat) : ∀ (runs : List (Settings × String)) {ρ : Nat → Nat}
    {w w' : World}, Mirrors ρ w.arena w'.arena → w.Agree w' → ρ 0 = 0 →
    observations reclaimFrame depth runs w = observations keepFrame depth runs w' := by
  intro runs
  induction runs with
  | nil => exact fun _ _ _ => rfl
  | cons run rest ih =>
      intro ρ w w' hm hagree hroot
      obtain ⟨s, source⟩ := run
      obtain ⟨hobs, _, hm₁, hagree₁, hroot₁⟩ := run_observed s depth source hm hagree hroot
      simp only [observations, hobs, ih hm₁ hagree₁ hroot₁]

/-- **Reclaiming frames cannot be observed.**  Start with the library in the root scope, whatever
the files and the standard input are, and run any sequence of sources there, each under its own
scoping and capabilities, whether they end in values or in faults.  Then every run shows the same
whether frames are reclaimed or kept for ever. -/
theorem reclaimFrame_unobservable (depth : Nat) (runs : List (Settings × String)) (w : World) :
    observations reclaimFrame depth runs { w with arena := Arena.default } =
      observations keepFrame depth runs { w with arena := Arena.default } := by
  have hm : Mirrors id Arena.default Arena.default :=
    { rooted := Arena.rooted_default
      binds := Arena.binds_default _
      mono := fun _ _ hij _ => hij
      scope := fun i _ => by cases h : Arena.default.scope? i <;> simp [h, Scope.rename_id] }
  exact observations_eq depth runs hm (.refl _) rfl

end ArenaLisp
