import ArenaLisp.Proofs.Printing
import ArenaLisp.Proofs.Release

/-!
# The same run in two arenas

A run depends on the scopes that it can see, and not on where in the arena they are, nor on how many
others there are.  Two worlds are *twins* if their arenas are copies of parts of a third one in
which two handles, one of each, stand for the same scope.  What is run below these handles ends
alike, and leaves twins behind.

The third arena is that of a run in which no frame is ever released: each of the two runs is
compared with that one, so that no new comparison is needed.

* `Uniform` — computations of which every comparison by laws can be kept up.
* `Twin` — twin worlds.
* **`Twin.run`** — what is run in twin worlds ends alike.
* `Twin.restore` — a run that spares the scopes of a world can be taken back.
-/

namespace ArenaLisp

/-! ## Computations that can be compared -/

/-- A computation in a scope, given what leaving a frame means, that keeps up every comparison that
the primitive steps keep up. -/
def Uniform (s : Settings) (p : Leave → Handle → Run Value) : Prop :=
  ∀ ⦃C : Coupling⦄ ⦃leave leave' : Leave⦄, C.Laws s leave leave' →
    ∀ ⦃κ : C.Stage⦄ ⦃h h' : Handle⦄, C.handles κ h h' →
      C.Coupled h h' κ C.values (p leave h) (p leave' h')

lemma uniform_runWith (s : Settings) (depth : Nat) (source : String) :
    Uniform s fun leave h => runWith (evaluateWith s leave depth) source h :=
  fun _ _ _ L _ _ _ hh => L.runWith (L.evaluateWith depth) source hh

/-- A call without arguments keeps up a comparison whatever the scope at hand is. -/
lemma Coupling.Laws.evaluateCall_nil {C : Coupling} {s : Settings} {leave leave' : Leave}
    {ev ev' : Evaluation} {g g' h h' : Handle} {κ : C.Stage} (L : C.Laws s leave leave')
    (hev : C.Matches ev ev') (left : Nat) (name : String) (hh : C.handles κ h h') :
    C.Coupled g g' κ C.values (evaluateCall s leave left ev name [] h)
      (evaluateCall s leave' left ev' name [] h') := by
  refine Coupled.bind (R := fun _ u v => u = [] ∧ v = []) (.pure ⟨rfl, rfl⟩) ?_
  rintro κ₁ _ _ hp ⟨rfl, rfl⟩
  refine (L.lookup name (C.handles_passes hp hh)).bind fun κ₂ found found' hp₂ hfound => ?_
  cases hfound with
  | none => exact .throw (L.fault _)
  | some hb =>
      refine (L.log _ _).bind fun κ₃ _ _ hp₃ _ => ?_
      have hp' := C.passes_trans (C.passes_trans hp hp₂) hp₃
      refine L.invokeWithin hev (C.handles_passes hp' hh) .nil ?_
      cases hb with
      | builtin hb => exact .builtin hb
      | constant hv => exact .constant (C.values_passes hp₃ hv)

lemma uniform_call (s : Settings) (depth : Nat) (name : String) :
    Uniform s fun leave h => evaluateCall s leave depth (evaluateWith s leave depth) name [] h :=
  fun _ _ _ L _ _ _ hh => L.evaluateCall_nil (L.evaluateWith depth) depth name hh

section Uniform

variable {s : Settings} {p : Leave → Handle → Run Value}

lemma Uniform.oblivious (hp : Uniform s p) (h : Handle) : (p reclaimFrame h).Oblivious :=
  Coupling.oblivious_of_coupled fun text host => hp (Coupling.printed_laws s text host) rfl

lemma Uniform.frame (hp : Uniform s p) (h : Handle) (w : World) :
    (p reclaimFrame h).EndsIn s (Frame s h w.arena) w :=
  Coupling.endsIn_of_within (hp (Coupling.within_laws (.anywhere s)) ⟨rfl, trivial⟩ w w ⟨rfl, rfl⟩)

end Uniform

/-- A call changes no scope. -/
lemma spares_call (s : Settings) (depth : Nat) (name : String) (h : Handle) (w : World) :
    (evaluateCall s reclaimFrame depth (evaluateWith s reclaimFrame depth) name [] h).EndsIn s
      (Spares s w.arena) w := by
  have L := Coupling.within_laws (.anywhere s)
  -- no name is bound in the scope of the call, so a scope that is not there may stand for it
  have hcall : (Coupling.within (.anywhere s)).Coupled w.arena.size w.arena.size w.arena _
      (evaluateCall s reclaimFrame depth (evaluateWith s reclaimFrame depth) name [] h)
      (evaluateCall s reclaimFrame depth (evaluateWith s reclaimFrame depth) name [] h) :=
    L.evaluateCall_nil (L.evaluateWith depth) depth name ⟨rfl, trivial⟩
  exact (Coupling.endsIn_of_within (hcall w w ⟨rfl, rfl⟩)).mono fun _ h =>
    h.spares (Nat.le_refl _)

/-! ## Twin worlds -/

/-- Worlds with the same standard input and files on the same host; what was printed may differ. -/
structure World.Alike (v u : World) : Prop extends v.SameHost u where
  input : u.input = v.input
  files : u.files = v.files

lemma World.Alike.trans {v u t : World} (h : v.Alike u) (h' : u.Alike t) : v.Alike t :=
  ⟨h.toSameHost.trans h'.toSameHost, h'.input.trans h.input, h'.files.trans h.files⟩

/-- **Twin worlds**, seen from a scope of each: their arenas are copies of parts of one arena, in
which the two scopes are the same. -/
structure Twin (h h' : Handle) (v u : World) : Prop where
  alike : v.Alike u
  left : h < v.arena.size
  right : h' < u.arena.size
  copies : ∃ (ρ ρ' : Nat → Nat) (common : Arena),
    Mirrors ρ v.arena common ∧ Mirrors ρ' u.arena common ∧ ρ h = ρ' h'

/-- Outcomes that are alike, with worlds that are related: two values, or two faults that are worded
alike. -/
inductive EndAlike (Q : World → World → Prop) :
    EStateM.Result Fault World Value → EStateM.Result Fault World Value → Prop where
  | ok {value value' : Value} {v u : World} : Q v u → EndAlike Q (.ok value v) (.ok value' u)
  | error {fault fault' : Fault} {v u : World} :
      fault'.diagnostic? = fault.diagnostic? → Q v u →
      EndAlike Q (.error fault v) (.error fault' u)

/-- Faults that look alike are worded alike. -/
lemma Fault.diagnostic?_eq_of_bare {fault fault' : Fault} (h : fault'.bare = fault.bare) :
    fault'.diagnostic? = fault.diagnostic? := by
  rw [← diagnostic?_rescope (fun _ => none) fault', ← diagnostic?_rescope (fun _ => none) fault]
  exact congrArg diagnostic? h

/-- The world with nothing printed yet. -/
def World.hushed (w : World) : World := { w with output := "" }

lemma World.printedBefore_hushed (w : World) : w.hushed.printedBefore w.output = w := by
  simp [hushed, printedBefore]

namespace Twin

variable {s : Settings} {h h' : Handle} {v u : World}

/-- The two scopes have the same names. -/
lemma localNames (t : Twin h h' v u) : u.arena.localNames h' = v.arena.localNames h := by
  obtain ⟨ρ, ρ', common, hm, hm', heq⟩ := t.copies
  rw [← hm.localNames t.left, ← hm'.localNames t.right, heq]

/-- What a stage of the comparison with a run that keeps all frames says at its end. -/
lemma release_end {κ κ₁ : Renaming} {w₁ k₁ : World} {h k : Handle} {e : Fault}
    (hlt : h < κ.arena.size) (hb : (Coupling.release s).Breaks h k e κ κ₁)
    (hw : (Coupling.release s).worlds κ₁ w₁ k₁) :
    Mirrors κ₁.index w₁.arena k₁.arena ∧ w₁.Agree k₁ ∧ h < w₁.arena.size ∧
      κ₁.index h = κ.index h := by
  obtain ⟨ha, hm, hagree⟩ := Coupling.release_worlds_iff.mp hw
  rw [ha]
  exact ⟨hm, hagree, Nat.lt_of_lt_of_le hlt hb.size_le, hb.index h hlt⟩

/-- Two worlds that were compared with the same one are twins, whatever they have printed. -/
lemma of_release {κ κ' κ₁ κ₁' : Renaming} {v₁ u₁ k₁ : World} {k : Handle}
    {e e' : Fault} (hlt : h < κ.arena.size) (hlt' : h' < κ'.arena.size)
    (heq : κ.index h = κ'.index h') (hb : (Coupling.release s).Breaks h k e κ κ₁)
    (hb' : (Coupling.release s).Breaks h' k e' κ' κ₁')
    (hw : (Coupling.release s).worlds κ₁ v₁ k₁) (hw' : (Coupling.release s).worlds κ₁' u₁ k₁)
    (text text' : String) : Twin h h' (v₁.printedBefore text) (u₁.printedBefore text') := by
  obtain ⟨hm, hagree, hleft, hindex⟩ := release_end hlt hb hw
  obtain ⟨hm', hagree', hright, hindex'⟩ := release_end hlt' hb' hw'
  refine ⟨⟨⟨?_, ?_⟩, ?_, ?_⟩, hleft, hright, _, _, k₁.arena, hm, hm', ?_⟩
  · exact hagree'.environ.symm.trans hagree.environ
  · exact hagree'.platform.symm.trans hagree.platform
  · exact hagree'.input.symm.trans hagree.input
  · exact hagree'.files.symm.trans hagree.files
  · rw [hindex, hindex', heq]

/-- **What is run in twin worlds ends alike**, and leaves twin worlds behind. -/
theorem run {p : Leave → Handle → Run Value} (hp : Uniform s p) (t : Twin h h' v u) :
    EndAlike (Twin h h') (p reclaimFrame h v) (p reclaimFrame h' u) := by
  obtain ⟨ρ, ρ', common, hm, hm', heq⟩ := t.copies
  -- the run that both are compared with starts with nothing printed
  let k : World := { v.hushed with arena := common }
  have hagree : v.hushed.Agree k := ⟨rfl, rfl, rfl, rfl, rfl⟩
  have hagree' : u.hushed.Agree k :=
    ⟨t.alike.input.symm, rfl, t.alike.files.symm, t.alike.environ.symm, t.alike.platform.symm⟩
  have L := Coupling.release_laws s
  let κ : Renaming := ⟨ρ, v.arena⟩
  let κ' : Renaming := ⟨ρ', u.arena⟩
  have hrun := hp L (κ := κ) (h := h) ⟨t.left, rfl⟩ v.hushed k ⟨rfl, hm, hagree⟩
  have hrun' := hp L (κ := κ') (h := h') ⟨t.right, heq⟩ u.hushed k ⟨rfl, hm', hagree'⟩
  rw [← v.printedBefore_hushed, ← u.printedBefore_hushed, (hp.oblivious h).printed,
    (hp.oblivious h').printed]
  generalize p reclaimFrame h v.hushed = r at hrun ⊢
  generalize p reclaimFrame h' u.hushed = r' at hrun' ⊢
  generalize p keepFrame (ρ h) k = rk at hrun hrun'
  cases hrun with
  | ok hpass hw _ =>
      cases hrun' with
      | ok hpass' hw' _ =>
          have hb : (Coupling.release s).Breaks h (ρ h) .recursionLimit κ _ := Or.inl hpass
          have hb' : (Coupling.release s).Breaks h' (ρ h) .recursionLimit κ' _ := Or.inl hpass'
          exact .ok (of_release t.left t.right heq hb hb' hw hw' _ _)
  | error hb hw he =>
      cases hrun' with
      | error hb' hw' he' =>
          refine .error ?_ (of_release t.left t.right heq hb hb' hw hw' _ _)
          exact Fault.diagnostic?_eq_of_bare (he'.symm.trans he)

/-- A run that spared the scopes of a world, and that left the rest of it alone, can be taken
back. -/
lemma restore {v₁ u₁ : World} (t : Twin h h' v u) (hs : Spares s v.arena v₁.arena)
    (hv : v.Alike v₁) (t₁ : Twin h h' v₁ u₁) : Twin h h' v u₁ := by
  obtain ⟨_, _, _, hold, _, _⟩ := t.copies
  obtain ⟨ρ, ρ', common, hm, hm', heq⟩ := t₁.copies
  refine ⟨hv.trans t₁.alike, t.left, t₁.right, ρ, ρ', common, ?_, hm', heq⟩
  refine ⟨hold.rooted, hold.binds, fun i j hij hj => ?_, fun i hi => ?_⟩
  · exact hm.mono i j hij (Nat.lt_of_lt_of_le hj hs.size_le)
  · rw [hm.scope i (Nat.lt_of_lt_of_le hi hs.size_le), hs.scopes i hi]

end Twin

end ArenaLisp
