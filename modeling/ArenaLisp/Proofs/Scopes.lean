import ArenaLisp.Library
import Mathlib.Tactic.Common

/-!
# What the operations of an arena do to its scopes

Every question about an arena comes down to `scope?`: which scope stands behind a handle.  This
file says, operation by operation, what becomes of that, so that no later file opens an arena.

A scope is **held** if it is live and marked as held by a lambda.  An arena is **rooted** if every
scope but the root has a parent of smaller index.  In a rooted arena the way from a scope to the
root is finite, so that looking a name up and listing names never meet a released scope.

* `Ordered.keys_put_eq` — the names of a scope, in the order in which they arrive.
* `Arena.scope?_child`, `Arena.scope?_release`, `Arena.scope?_update` — the life of a scope.
* `Arena.Holds`, `Arena.isCaptured_iff` — which scopes stop a frame from being released.
* `Arena.Anchored`, `Arena.Rooted` — the way to the root.
* **`Arena.Rooted.lookup_ok`**, `Arena.Rooted.names_ok` — in a rooted arena no look-up fails.
-/

namespace ArenaLisp

/-! ## Tables -/

/-- Items with one more at the end, unless it has come before. -/
def arrived [DecidableEq α] (items : List α) : Option α → List α
  | none => items
  | some item => if item ∈ items then items else items ++ [item]

lemma nodup_arrived [DecidableEq α] {items : List α} (h : items.Nodup) (item? : Option α) :
    (arrived items item?).Nodup := by
  cases item? with
  | none => exact h
  | some item =>
      rw [arrived]
      split_ifs with hmem
      · exact h
      · refine List.nodup_append.mpr ⟨h, by simp, ?_⟩
        rintro other hother _ (_ | ⟨_, ⟨⟩⟩) rfl
        exact hmem hother

/-- Writing a value makes its key arrive. -/
lemma Ordered.keys_put_eq [DecidableEq κ] (key : κ) (value : α) (t : Ordered κ α) :
    keys (put key value t) = arrived (keys t) (some key) := by
  induction t with
  | nil => rfl
  | cons first rest ih =>
      by_cases h : first.1 = key
      · simp [put, keys, arrived, h]
      · have hput : keys (put key value (first :: rest)) = first.1 :: keys (put key value rest) := by
          simp [put, keys, h]
        have hmem : key ∈ keys (first :: rest) ↔ key ∈ keys rest := by
          simp [keys, Ne.symm h]
        rw [hput, ih]
        simp only [arrived, hmem]
        split_ifs <;> rfl

lemma Ordered.keys_put [DecidableEq κ] (key : κ) (value : α) (t : Ordered κ α) :
    keys t <+: keys (put key value t) := by
  rw [keys_put_eq, arrived]
  split_ifs
  · exact List.prefix_rfl
  · exact List.prefix_append _ _

lemma Ordered.nodup_keys_put [DecidableEq κ] {key : κ} {value : α} {t : Ordered κ α}
    (h : (keys t).Nodup) : (keys (put key value t)).Nodup := by
  rw [keys_put_eq]
  exact nodup_arrived h _

/-- Whatever a table holds after a value was written is that value or was there before. -/
lemma Ordered.mem_put [DecidableEq κ] {key : κ} {value : α} {entry : κ × α} {t : Ordered κ α}
    (h : entry ∈ put key value t) : entry = (key, value) ∨ entry ∈ t := by
  induction t with
  | nil => simpa [put] using h
  | cons first rest ih =>
      obtain ⟨other, old⟩ := first
      by_cases hk : other = key
      · simp only [put, hk, if_true, List.mem_cons] at h ⊢
        tauto
      · simp only [put, hk, if_false, List.mem_cons] at h ⊢
        rcases h with h | h
        · exact Or.inr (Or.inl h)
        · rcases ih h with h | h
          · exact Or.inl h
          · exact Or.inr (Or.inr h)

lemma Ordered.mem_of_get? [DecidableEq κ] {key : κ} {value : α} {t : Ordered κ α}
    (h : get? key t = some value) : (key, value) ∈ t := by
  induction t with
  | nil => simp [get?] at h
  | cons first rest ih =>
      obtain ⟨other, old⟩ := first
      by_cases hk : other = key
      · simp only [get?, hk, if_true, Option.some.injEq] at h
        simp [hk, h]
      · simp only [get?, hk, if_false] at h
        exact List.mem_cons_of_mem _ (ih h)

lemma Ordered.mem_keys_put [DecidableEq κ] {key other : κ} {value : α} {t : Ordered κ α} :
    other ∈ keys (put key value t) ↔ other = key ∨ other ∈ keys t := by
  rw [keys_put_eq, arrived]
  split_ifs with h
  · exact ⟨Or.inr, fun ho => ho.elim (fun heq => heq ▸ h) id⟩
  · rw [List.mem_append, List.mem_singleton, or_comm]

lemma Ordered.get?_eq_none_iff [DecidableEq κ] {key : κ} {t : Ordered κ α} :
    get? key t = none ↔ key ∉ keys t := by
  induction t with
  | nil => simp [get?, keys]
  | cons first rest ih =>
      simp only [keys] at ih
      by_cases h : first.1 = key
      · simp [get?, keys, h]
      · simp [get?, keys, h, Ne.symm h, ih]

namespace Arena

/-! ## The life of a scope -/

lemma scope?_eq_none_iff {a : Arena} {h : Nat} : a.scope? h = none ↔ a.size ≤ h := by
  simp [scope?, size]

lemma scope?_isSome_iff {a : Arena} {h : Nat} : (a.scope? h).isSome ↔ h < a.size := by
  simp [scope?, size]

lemma exists_scope {a : Arena} {h : Nat} (hh : h < a.size) : ∃ sc, a.scope? h = some sc :=
  Option.isSome_iff_exists.mp (scope?_isSome_iff.mpr hh)

lemma lt_size {a : Arena} {h : Nat} {sc : Scope} (hs : a.scope? h = some sc) : h < a.size :=
  scope?_isSome_iff.mp (by rw [hs]; rfl)

/-- An arena is made up of its scopes. -/
lemma ext_scope? {a a' : Arena} (h : ∀ i, a.scope? i = a'.scope? i) : a = a' := by
  cases a
  cases a'
  exact congrArg Arena.mk (Array.ext_getElem? h)

@[simp] lemma size_fresh : fresh.size = 1 := rfl

@[simp] lemma size_child (a : Arena) (h : Nat) : (a.child h).size = a.size + 1 := by
  simp [child, size]

lemma size_release (a : Arena) (h : Nat) : (a.release h).size = min h a.size := by
  simp [release, size]

@[simp] lemma size_update (a : Arena) (h : Nat) (f : Scope → Scope) :
    (a.update h f).size = a.size := by
  simp [update, size]

lemma scope?_child (a : Arena) (h i : Nat) :
    (a.child h).scope? i = if i = a.size then some { parent := some h } else a.scope? i := by
  simp only [child, scope?, size]
  exact Array.getElem?_push

/-- Opening a scope leaves the older ones alone. -/
lemma scope?_child_of_lt {a : Arena} {h i : Nat} (hi : i < a.size) :
    (a.child h).scope? i = a.scope? i := by
  rw [scope?_child, if_neg (Nat.ne_of_lt hi)]

lemma scope?_release (a : Arena) (h i : Nat) :
    (a.release h).scope? i = if i < h then a.scope? i else none := by
  simp only [release, scope?, Array.take_eq_extract, Array.getElem?_extract]
  by_cases hi : i < h
  · by_cases hs : i < a.scopes.size
    · rw [if_pos (by omega), if_pos hi, Nat.zero_add]
    · rw [if_neg (by omega), if_pos hi, Array.getElem?_eq_none (by omega)]
  · rw [if_neg (by omega), if_neg hi]

lemma scope?_update (a : Arena) (h i : Nat) (f : Scope → Scope) :
    (a.update h f).scope? i = if i = h then (a.scope? i).map f else a.scope? i := by
  simp only [update, scope?, Array.getElem?_modify]
  by_cases hi : h = i
  · simp [hi]
  · simp [hi, Ne.symm hi]

lemma scope?_update_of_ne {a : Arena} {h i : Nat} {f : Scope → Scope} (hi : i ≠ h) :
    (a.update h f).scope? i = a.scope? i := by
  rw [scope?_update, if_neg hi]

/-- A scope opened since a scope was made goes when that one is released. -/
lemma release_child {a : Arena} {h : Nat} (p : Nat) (hh : h ≤ a.size) :
    (a.child p).release h = a.release h := by
  refine ext_scope? fun i => ?_
  rw [scope?_release, scope?_release]
  by_cases hi : i < h
  · rw [if_pos hi, if_pos hi, scope?_child_of_lt (Nat.lt_of_lt_of_le hi hh)]
  · rw [if_neg hi, if_neg hi]

/-! ## Held scopes -/

/-- A scope that is live and marked as held by a lambda. -/
def Holds (a : Arena) (i : Handle) : Prop := ∃ sc, a.scope? i = some sc ∧ sc.captured = true

lemma Holds.lt_size {a : Arena} {i : Nat} (h : a.Holds i) : i < a.size :=
  Arena.lt_size h.choose_spec.1

/-- A frame is kept exactly if it or a scope made after it is held. -/
lemma isCaptured_iff {a : Arena} {h : Nat} :
    a.isCaptured h = true ↔ ∃ i, h ≤ i ∧ a.Holds i := by
  simp only [isCaptured, List.any_eq_true, List.mem_iff_getElem?, List.getElem?_drop,
    Array.getElem?_toList, Holds, scope?]
  constructor
  · rintro ⟨sc, ⟨k, hk⟩, hc⟩
    exact ⟨h + k, Nat.le_add_right _ _, sc, hk, hc⟩
  · rintro ⟨i, hi, sc, hs, hc⟩
    exact ⟨sc, ⟨i - h, by rwa [Nat.add_sub_cancel' hi]⟩, hc⟩

lemma holds_child {a : Arena} {h i : Nat} : (a.child h).Holds i ↔ a.Holds i := by
  unfold Holds
  rw [scope?_child]
  by_cases hi : i = a.size
  · rw [if_pos hi, scope?_eq_none_iff.mpr (Nat.le_of_eq hi.symm)]
    simp
  · rw [if_neg hi]

/-- A scope that was just opened is not held. -/
lemma isCaptured_child {a : Arena} (p h : Nat) : (a.child p).isCaptured h = a.isCaptured h := by
  rw [Bool.eq_iff_iff, isCaptured_iff, isCaptured_iff]
  simp only [holds_child]

lemma holds_release {a : Arena} {h i : Nat} : (a.release h).Holds i ↔ i < h ∧ a.Holds i := by
  unfold Holds
  rw [scope?_release]
  by_cases hi : i < h <;> simp [hi]

lemma holds_define {a : Arena} {h i : Nat} {name : String} {value : Value} :
    (a.define h name value).Holds i ↔ a.Holds i := by
  unfold Holds define insert
  rw [scope?_update]
  by_cases hi : i = h
  · rw [if_pos hi]
    cases a.scope? i <;> simp [Scope.insert]
  · rw [if_neg hi]

lemma holds_capture {a : Arena} {h i : Nat} :
    (a.capture h).Holds i ↔ (i = h ∧ i < a.size) ∨ a.Holds i := by
  unfold Holds capture
  rw [scope?_update]
  by_cases hi : i = h
  · rw [if_pos hi]
    cases hs : a.scope? i with
    | none =>
        have hn : ¬ i < a.size := Nat.not_lt.mpr (scope?_eq_none_iff.mp hs)
        simp [hn]
    | some sc =>
        have hl : i < a.size := lt_size hs
        exact ⟨fun _ => Or.inl ⟨hi, hl⟩, fun _ => ⟨_, rfl, rfl⟩⟩
  · rw [if_neg hi]
    simp [hi]

/-! ## The way to the root -/

/-- A scope from which the parents lead to the root, each of smaller index than the one before. -/
inductive Anchored (a : Arena) : Handle → Prop where
  | root {sc : Scope} : a.scope? 0 = some sc → sc.parent = none → Anchored a 0
  | step {i p : Handle} {sc : Scope} :
      a.scope? i = some sc → sc.parent = some p → p < i → Anchored a p → Anchored a i

/-- An arena in which the root has no parent and every other scope has one of smaller index. -/
structure Rooted (a : Arena) : Prop where
  root : ∃ sc, a.scope? 0 = some sc ∧ sc.parent = none
  parent : ∀ {i : Nat} {sc : Scope}, a.scope? i = some sc → 0 < i →
    ∃ p, p < i ∧ sc.parent = some p

namespace Rooted

variable {a : Arena}

lemma size_pos (ha : a.Rooted) : 0 < a.size := lt_size ha.root.choose_spec.1

/-- The parent of a scope is live and of smaller index. -/
lemma parent_lt (ha : a.Rooted) {i p : Nat} {sc : Scope} (hs : a.scope? i = some sc)
    (hp : sc.parent = some p) : p < i := by
  rcases Nat.eq_zero_or_pos i with rfl | hi
  · obtain ⟨root, hr, hn⟩ := ha.root
    rw [hs, Option.some.injEq] at hr
    rw [hr, hn] at hp
    exact absurd hp (by simp)
  · obtain ⟨q, hq, hq'⟩ := ha.parent hs hi
    rw [hq', Option.some.injEq] at hp
    omega

/-- In a rooted arena every live scope is anchored. -/
lemma anchored (ha : a.Rooted) : ∀ {i : Nat}, i < a.size → a.Anchored i := by
  intro i
  induction i using Nat.strongRecOn with
  | ind i ih =>
      intro hi
      obtain ⟨sc, hs⟩ := exists_scope hi
      rcases Nat.eq_zero_or_pos i with rfl | hpos
      · obtain ⟨root, hr, hn⟩ := ha.root
        exact .root hr hn
      · obtain ⟨p, hp, hp'⟩ := ha.parent hs hpos
        exact .step hs hp' hp (ih p hp (by omega))

/-- The way from a live scope to the root meets live scopes only. -/
lemma chainFrom_live (ha : a.Rooted) : ∀ (n : Nat) {i : Nat}, i < n → i < a.size →
    ∃ scs : List Scope, a.chainFrom n i = scs.map some ∧
      ∀ sc ∈ scs, ∃ j, a.scope? j = some sc := by
  intro n
  induction n with
  | zero =>
      intro i hn
      omega
  | succ n ih =>
      intro i hn hi
      obtain ⟨sc, hs⟩ := exists_scope hi
      cases hp : sc.parent with
      | none => exact ⟨[sc], by simp [chainFrom, hs, hp], by simpa using ⟨i, hs⟩⟩
      | some p =>
          have hlt : p < i := ha.parent_lt hs hp
          obtain ⟨rest, hrest, hmem⟩ :=
            ih (Nat.lt_of_lt_of_le hlt (Nat.le_of_lt_succ hn)) (Nat.lt_trans hlt hi)
          refine ⟨sc :: rest, by simp [chainFrom, hs, hp, hrest], ?_⟩
          intro other ho
          rcases List.mem_cons.mp ho with rfl | ho
          · exact ⟨i, hs⟩
          · exact hmem other ho

end Rooted

lemma lookupAlong_live (name : String) (scs : List Scope) :
    lookupAlong name (scs.map some) = .ok (scs.findSome? (·.get? name)) := by
  induction scs with
  | nil => rfl
  | cons sc rest ih =>
      simp only [List.map_cons, lookupAlong, List.findSome?_cons]
      cases sc.get? name with
      | none => exact ih
      | some binding => rfl

lemma namesAlong_live (scs : List Scope) :
    namesAlong (scs.map some) = .ok (scs.flatMap Scope.names) := by
  induction scs with
  | nil => rfl
  | cons sc rest ih =>
      rw [List.map_cons, namesAlong, ih]
      rfl

namespace Rooted

variable {a : Arena}

lemma chain_live (ha : a.Rooted) {i : Nat} (hi : i < a.size) :
    ∃ scs : List Scope, a.chain i = scs.map some ∧ ∀ sc ∈ scs, ∃ j, a.scope? j = some sc :=
  ha.chainFrom_live _ (by omega) hi

/-- **No look-up fails**: from a live scope of a rooted arena a name is found in a live scope or is
not found at all. -/
theorem lookup_ok (ha : a.Rooted) {i : Nat} (hi : i < a.size) (name : String) :
    ∃ found, a.lookup i name = .ok found ∧ ∀ binding, found = some binding →
      ∃ j sc, a.scope? j = some sc ∧ (name, binding) ∈ sc.bindings := by
  obtain ⟨scs, hscs, hmem⟩ := ha.chain_live hi
  refine ⟨_, by rw [lookup, hscs, lookupAlong_live], ?_⟩
  intro binding hb
  obtain ⟨sc, hsc, hget⟩ := List.exists_of_findSome?_eq_some hb
  obtain ⟨j, hj⟩ := hmem sc hsc
  exact ⟨j, sc, hj, Ordered.mem_of_get? hget⟩

/-- From a live scope of a rooted arena the visible names can be listed. -/
theorem names_ok (ha : a.Rooted) {i : Nat} (hi : i < a.size) : ∃ ns, a.names i = .ok ns := by
  obtain ⟨scs, hscs, _⟩ := ha.chain_live hi
  exact ⟨_, by rw [names, hscs, namesAlong_live]⟩

/-! ### The operations keep an arena rooted -/

lemma child (ha : a.Rooted) {h : Nat} (hh : h < a.size) : (a.child h).Rooted where
  root := by
    obtain ⟨sc, hs, hp⟩ := ha.root
    exact ⟨sc, by rw [scope?_child_of_lt ha.size_pos, hs], hp⟩
  parent := by
    intro i sc hs hi
    rw [scope?_child] at hs
    split_ifs at hs with hn
    · cases hs
      exact ⟨h, by omega, rfl⟩
    · exact ha.parent hs hi

lemma release (ha : a.Rooted) {h : Nat} (hh : 0 < h) : (a.release h).Rooted where
  root := by
    obtain ⟨sc, hs, hp⟩ := ha.root
    exact ⟨sc, by rw [scope?_release, if_pos hh, hs], hp⟩
  parent := by
    intro i sc hs hi
    rw [scope?_release] at hs
    split_ifs at hs with hn
    exact ha.parent hs hi

lemma update (ha : a.Rooted) (h : Nat) {f : Scope → Scope} (hf : ∀ sc, (f sc).parent = sc.parent) :
    (a.update h f).Rooted where
  root := by
    obtain ⟨sc, hs, hp⟩ := ha.root
    by_cases h0 : 0 = h
    · exact ⟨f sc, by rw [scope?_update, if_pos h0, hs]; rfl, by rw [hf, hp]⟩
    · exact ⟨sc, by rw [scope?_update, if_neg h0, hs], hp⟩
  parent := by
    intro i sc hs hi
    rw [scope?_update] at hs
    split_ifs at hs with hn
    · obtain ⟨old, ho, rfl⟩ := Option.map_eq_some_iff.mp hs
      rw [hf]
      exact ha.parent ho hi
    · exact ha.parent hs hi

lemma insert (ha : a.Rooted) (h : Nat) (name : String) (binding : Binding) :
    (a.insert h name binding).Rooted :=
  ha.update h fun _ => rfl

lemma define (ha : a.Rooted) (h : Nat) (name : String) (value : Value) :
    (a.define h name value).Rooted :=
  ha.insert h name _

lemma capture (ha : a.Rooted) (h : Nat) : (a.capture h).Rooted :=
  ha.update h fun _ => rfl

end Rooted

lemma rooted_fresh : fresh.Rooted where
  root := ⟨{}, rfl, rfl⟩
  parent := by
    intro i sc hs hi
    have hlt : i < fresh.size := lt_size hs
    rw [size_fresh] at hlt
    omega

end Arena

end ArenaLisp
