import ArenaLisp.Proofs.Scopes
import Mathlib.Data.List.Induction

/-!
# Chains of scopes after any history

An arena is changed through handles: a scope is made below another one, a name is bound, a scope is
marked as held, a scope is released.  A handle outlives its scope.  Releasing cuts the arena, scopes
made later take the indices that became free, and a handle on a released scope then stands for
another one.  This file says what can be relied on all the same, after any history of such steps in
which only live handles are written through.

Every scope but the root has a parent of smaller index.  So the way from a live scope to the root is
finite, and looking a name up along it agrees with listing the names along it.  And each scope lists
its own names in the order in which they were first bound since the scope was made, whatever had the
same index before.

* `Arena.Edit`, `Arena.Built` — the steps, and the arenas that they lead to.
* `Arena.Way` — the way from a scope to the root.
* `Arena.Opens` — where in a history a scope came up.
* **`Arena.Built.chains`** — what holds after any history.
-/

namespace ArenaLisp

/-! ## Names in order of arrival -/

lemma arrived_eraseDups [DecidableEq α] (items : List α) (item? : Option α) :
    arrived items.eraseDups item? = (items ++ item?.toList).eraseDups := by
  cases item? with
  | none => simp [arrived]
  | some item =>
      rw [arrived, Option.toList_some, List.eraseDups_append]
      simp only [List.mem_eraseDups]
      split_ifs with h <;> simp [List.removeAll, h, List.eraseDups_cons]

namespace Arena

/-! ## Histories -/

/-- The steps in which an arena is changed, each through a handle. -/
inductive Edit where
  | child (h : Handle)
  | insert (h : Handle) (name : String) (binding : Binding)
  | define (h : Handle) (name : String) (value : Value)
  | capture (h : Handle)
  | release (h : Handle)

namespace Edit

/-- The arena after a step. -/
def apply (a : Arena) : Edit → Arena
  | .child h => a.child h
  | .insert h name binding => a.insert h name binding
  | .define h name value => a.define h name value
  | .capture h => a.capture h
  | .release h => a.release h

/-- The handle that a step goes through must be live, unless the step releases it. -/
def Allowed (a : Arena) : Edit → Prop
  | .child h | .insert h _ _ | .define h _ _ | .capture h => h < a.size
  | .release _ => True

instance (a : Arena) : (e : Edit) → Decidable (e.Allowed a)
  | .child _ | .insert .. | .define .. | .capture _ => inferInstanceAs (Decidable (_ < _))
  | .release _ => isTrue trivial

/-- The name that a step binds in a scope. -/
def boundIn? (i : Handle) : Edit → Option String
  | .insert h name _ | .define h name _ => if h = i then some name else none
  | .child _ | .capture _ | .release _ => none

/-- Whether a step discards a scope. -/
def Discards (i : Handle) : Edit → Prop
  | .release h => h ≤ i
  | .child _ | .insert .. | .define .. | .capture _ => False

end Edit

/-- The arenas that steps lead to, from an arena with an empty root.  Handles are indices, so every
index that is or has been live can be used. -/
inductive Built : List Edit → Arena → Prop where
  | fresh : Built [] fresh
  | edit {edits : List Edit} {a : Arena} {e : Edit} :
      Built edits a → e.Allowed a → Built (edits ++ [e]) (e.apply a)

/-- A scope comes up at the end of some steps: it is the root, or the last step makes it. -/
def Opens (edits : List Edit) (i : Handle) : Prop :=
  (edits = [] ∧ i = 0) ∨
    ∃ earlier p a, edits = earlier ++ [.child p] ∧ Built earlier a ∧ a.size = i

variable {a : Arena} {edits : List Edit}

/-! ## Parents -/

/-- An arena with a scope left is rooted. -/
lemma Built.rooted (hb : Built edits a) : 0 < a.size → a.Rooted := by
  induction hb with
  | fresh => exact fun _ => rooted_fresh
  | @edit edits a e hb he ih =>
      intro hpos
      cases e with
      | child h => exact (ih (Nat.zero_lt_of_lt he)).child he
      | insert h name binding => exact (ih (Nat.zero_lt_of_lt he)).insert h name binding
      | define h name value => exact (ih (Nat.zero_lt_of_lt he)).define h name value
      | capture h => exact (ih (Nat.zero_lt_of_lt he)).capture h
      | release h =>
          simp only [Edit.apply, size_release] at hpos
          exact (ih (by omega)).release (by omega)

/-! ## The way to the root -/

/-- The handles on the way from a scope to the root: each next one is the parent of the one before
and has a smaller index, and the last one is the root, which has no parent. -/
inductive Way (a : Arena) : Handle → List Handle → Prop where
  | root {sc : Scope} : a.scope? 0 = some sc → sc.parent = none → Way a 0 [0]
  | step {i p : Nat} {sc : Scope} {way : List Handle} :
      a.scope? i = some sc → sc.parent = some p → p < i → Way a p way → Way a i (i :: way)

lemma Anchored.exists_way {i : Nat} (h : a.Anchored i) : ∃ way, a.Way i way := by
  induction h with
  | root hs hp => exact ⟨_, .root hs hp⟩
  | step hs hp hlt _ ih =>
      obtain ⟨way, hway⟩ := ih
      exact ⟨_, .step hs hp hlt hway⟩

namespace Way

variable {i : Nat} {way : List Handle}

/-- A way ends at the root. -/
lemma getLast?_eq (h : a.Way i way) : way.getLast? = some 0 := by
  induction h with
  | root => rfl
  | step _ _ _ hway ih => cases hway <;> exact ih

/-- All scopes on a way are live. -/
lemma exists_scopes (h : a.Way i way) : ∃ scs : List Scope, way.map a.scope? = scs.map some := by
  induction h with
  | @root sc hs _ => exact ⟨[sc], by simp [hs]⟩
  | @step _ _ sc _ hs _ _ _ ih =>
      obtain ⟨scs, hscs⟩ := ih
      exact ⟨sc :: scs, by simp [hs, hscs]⟩

/-- Walking from parent to parent goes through the scopes on the way and stops by itself. -/
lemma chainFrom_eq (h : a.Way i way) :
    ∀ {steps : Nat}, i < steps → a.chainFrom steps i = way.map a.scope? := by
  induction h with
  | root hs hp =>
      intro steps hlt
      obtain ⟨steps, rfl⟩ : ∃ n, steps = n + 1 := ⟨steps - 1, by omega⟩
      simp [chainFrom, hs, hp]
  | step hs hp hlt _ ih =>
      intro steps hsteps
      obtain ⟨steps, rfl⟩ : ∃ n, steps = n + 1 := ⟨steps - 1, by omega⟩
      have hrest := ih (Nat.lt_of_lt_of_le hlt (Nat.le_of_lt_succ hsteps))
      simp [chainFrom, hs, hp, hrest]

end Way

/-! ## Names along a chain -/

lemma Scope.mem_names_iff {sc : Scope} {name : String} :
    name ∈ sc.names ↔ sc.get? name ≠ none := by
  rw [Ne, Scope.get?, Ordered.get?_eq_none_iff, not_not]
  rfl

/-- A name is bound along a chain exactly if it is listed along it. -/
lemma findSome?_ne_none_iff {scs : List Scope} {name : String} :
    scs.findSome? (·.get? name) ≠ none ↔ name ∈ scs.flatMap Scope.names := by
  simp only [Ne, List.findSome?_eq_none_iff, List.mem_flatMap, Scope.mem_names_iff]
  push Not
  rfl

/-- The binding of a name along a chain is that of the first scope that lists it. -/
lemma findSome?_append_cons {nearer farther : List Scope} {sc : Scope} {name : String}
    (hmem : name ∈ sc.names) (hnearer : ∀ other ∈ nearer, name ∉ other.names) :
    (nearer ++ sc :: farther).findSome? (·.get? name) = sc.get? name := by
  have hnone : nearer.findSome? (·.get? name) = none := by
    rw [List.findSome?_eq_none_iff]
    exact fun other ho => not_not.mp (mt Scope.mem_names_iff.mpr (hnearer other ho))
  obtain ⟨binding, hbinding⟩ := Option.ne_none_iff_exists'.mp (Scope.mem_names_iff.mp hmem)
  rw [List.findSome?_append, hnone, List.findSome?_cons_of_isSome (by rw [hbinding]; rfl)]
  rfl

/-! ## Names in a scope -/

lemma names_insert {k i : Nat} {name : String} {binding : Binding} {sc : Scope}
    (h : (a.insert k name binding).scope? i = some sc) :
    ∃ old, a.scope? i = some old ∧
      sc.names = arrived old.names (if k = i then some name else none) := by
  rw [insert, scope?_update] at h
  split_ifs at h with hi
  · obtain ⟨old, ho, rfl⟩ := Option.map_eq_some_iff.mp h
    exact ⟨old, ho, by rw [if_pos hi.symm]; exact Ordered.keys_put_eq name binding old.bindings⟩
  · exact ⟨sc, h, by rw [if_neg (Ne.symm hi)]; rfl⟩

/-- What one step does to a scope and its names: the step makes the scope, or the scope was there
before, and if the step binds a name in it, that name arrives. -/
lemma Edit.names_apply {e : Edit} {i : Nat} {sc : Scope} (h : (e.apply a).scope? i = some sc) :
    (∃ p, e = .child p ∧ i = a.size ∧ sc.names = []) ∨
      ¬ e.Discards i ∧ ∃ old, a.scope? i = some old ∧
        sc.names = arrived old.names (e.boundIn? i) := by
  cases e with
  | child p =>
      rw [Edit.apply, scope?_child] at h
      split_ifs at h with hi
      · cases h
        exact Or.inl ⟨p, rfl, hi, rfl⟩
      · exact Or.inr ⟨id, sc, h, rfl⟩
  | insert k name binding => exact Or.inr ⟨id, names_insert h⟩
  | define k name value => exact Or.inr ⟨id, names_insert h⟩
  | capture k =>
      rw [Edit.apply, Arena.capture, scope?_update] at h
      split_ifs at h with hi
      · obtain ⟨old, ho, rfl⟩ := Option.map_eq_some_iff.mp h
        exact Or.inr ⟨id, old, ho, rfl⟩
      · exact Or.inr ⟨id, sc, h, rfl⟩
  | release k =>
      rw [Edit.apply, scope?_release] at h
      split_ifs at h with hi
      exact Or.inr ⟨Nat.not_le.mpr hi, sc, h, rfl⟩

/-- Since a scope came up, the names that were bound in it arrived one after the other. -/
lemma Built.names (hb : Built edits a) : ∀ {i : Nat} {sc : Scope}, a.scope? i = some sc →
    sc.names.Nodup ∧ ∃ before since, edits = before ++ since ∧ Opens before i ∧
      (∀ e ∈ since, ¬ e.Discards i) ∧ sc.names = (since.filterMap (·.boundIn? i)).eraseDups := by
  induction hb with
  | fresh =>
      intro i sc hs
      obtain rfl : i = 0 := by
        have := lt_size hs
        rw [size_fresh] at this
        omega
      cases hs
      exact ⟨List.nodup_nil, [], [], rfl, Or.inl ⟨rfl, rfl⟩, by simp, rfl⟩
  | @edit edits a e hb he ih =>
      intro i sc hs
      rcases Edit.names_apply hs with ⟨p, rfl, rfl, hnames⟩ | ⟨hkeep, old, ho, hnames⟩
      · refine ⟨by simp [hnames], edits ++ [.child p], [], by simp, ?_, by simp, by simp [hnames]⟩
        exact Or.inr ⟨edits, p, a, rfl, hb, rfl⟩
      · obtain ⟨hnodup, before, since, rfl, hopens, hsince, hold⟩ := ih ho
        refine ⟨hnames ▸ nodup_arrived hnodup _, before, since ++ [e], by simp, hopens, ?_, ?_⟩
        · simpa [or_imp, forall_and] using ⟨hsince, hkeep⟩
        · rw [hnames, hold, arrived_eraseDups, List.filterMap_append]
          cases h : e.boundIn? i <;> simp [h]

/-! ## After any history -/

/-- **After any history** of steps that go through live handles, or release any: every scope has a
parent of smaller index, but for the root, which has none.  So from a live scope the way to the root
is finite, and listing and looking up never fail.  The names listed are those of the scopes on the
way, one after the other; a name can be looked up exactly if it is listed, and what is found is the
binding in the first scope that lists it.  Each scope lists its own names without repetition, in the
order in which they were first bound by the steps since the scope came up. -/
theorem Built.chains (hb : Built edits a) :
    (∀ (i : Nat) sc, a.scope? i = some sc →
      (i = 0 → sc.parent = none) ∧ (0 < i → ∃ p, p < i ∧ sc.parent = some p)) ∧
    (∀ h : Nat, h < a.size → ∃ way scs,
      a.Way h way ∧ way.getLast? = some 0 ∧ way.map a.scope? = scs.map some ∧
      (∀ steps : Nat, h < steps → a.chainFrom steps h = scs.map some) ∧
      a.names h = .ok (scs.flatMap Scope.names) ∧
      ∀ name, ∃ found, a.lookup h name = .ok found ∧
        (found ≠ none ↔ name ∈ scs.flatMap Scope.names) ∧
        ∀ nearer sc farther, scs = nearer ++ sc :: farther → name ∈ sc.names →
          (∀ other ∈ nearer, name ∉ other.names) → found = sc.get? name) ∧
    (∀ (i : Nat) sc, a.scope? i = some sc → a.localNames i = .ok sc.names ∧ sc.names.Nodup ∧
      ∃ before since, edits = before ++ since ∧ Opens before i ∧
        (∀ e ∈ since, ¬ e.Discards i) ∧
        sc.names = (since.filterMap (·.boundIn? i)).eraseDups) := by
  refine ⟨?_, ?_, ?_⟩
  · intro i sc hs
    have ha := hb.rooted (Nat.zero_lt_of_lt (lt_size hs))
    refine ⟨?_, ha.parent hs⟩
    rintro rfl
    obtain ⟨root, hr, hp⟩ := ha.root
    rw [hs] at hr
    cases hr
    exact hp
  · intro h hlive
    obtain ⟨way, hway⟩ := ((hb.rooted (Nat.zero_lt_of_lt hlive)).anchored hlive).exists_way
    obtain ⟨scs, hscs⟩ := hway.exists_scopes
    have hchain : ∀ steps : Nat, h < steps → a.chainFrom steps h = scs.map some :=
      fun steps hlt => (hway.chainFrom_eq hlt).trans hscs
    have hlocal : a.chain h = scs.map some := hchain _ (by omega)
    refine ⟨way, scs, hway, hway.getLast?_eq, hscs, hchain, ?_, fun name => ?_⟩
    · rw [Arena.names, hlocal, namesAlong_live]
    · refine ⟨_, by rw [lookup, hlocal, lookupAlong_live], findSome?_ne_none_iff, ?_⟩
      rintro nearer sc farther rfl hmem hnearer
      exact findSome?_append_cons hmem hnearer
  · intro i sc hs
    exact ⟨by rw [localNames, hs], hb.names hs⟩

/-- A scope with an index that had been used before, with a name bound twice and one that hides a
name of the root. -/
theorem Built.chains_reused :
    let edits : List Edit := [.define 0 "x" .unit, .child 0, .define 1 "y" .unit, .release 1,
      .child 0, .define 1 "z" .unit, .define 1 "x" (.integer 1), .define 1 "z" (.integer 2)]
    let a := edits.foldl Edit.apply Arena.fresh
    (Built edits a ∧ 1 < a.size) ∧
    (∃ way, a.Way 1 way ∧ way.getLast? = some 0) ∧
    ∃ before since, edits = before ++ since ∧ Opens before 1 ∧
      (∀ e ∈ since, ¬ e.Discards 1) ∧
      ["z", "x"] = (since.filterMap (·.boundIn? 1)).eraseDups := by
  intro edits a
  have hb : Built edits a :=
    Built.fresh.edit (e := .define 0 "x" .unit) (by decide)
      |>.edit (e := .child 0) (by decide)
      |>.edit (e := .define 1 "y" .unit) (by decide)
      |>.edit (e := .release 1) (by decide)
      |>.edit (e := .child 0) (by decide)
      |>.edit (e := .define 1 "z" .unit) (by decide)
      |>.edit (e := .define 1 "x" (.integer 1)) (by decide)
      |>.edit (e := .define 1 "z" (.integer 2)) (by decide)
  have hlive : 1 < a.size := by decide
  obtain ⟨-, hways, hlocal⟩ := hb.chains
  obtain ⟨way, -, hway, hlast, -⟩ := hways 1 hlive
  obtain ⟨sc, hs⟩ := exists_scope hlive
  obtain ⟨-, -, before, since, heq, hopens, hsince, hnames⟩ := hlocal 1 sc hs
  have hz : (a.scope? 1).map Scope.names = some ["z", "x"] := by decide
  rw [hs] at hz
  rw [Option.some.inj hz] at hnames
  exact ⟨⟨hb, hlive⟩, ⟨way, hway, hlast⟩, before, since, heq, hopens, hsince, hnames⟩

end Arena

end ArenaLisp
