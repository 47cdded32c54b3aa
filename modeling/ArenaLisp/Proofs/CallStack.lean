import ArenaLisp.Proofs.Chains
import ArenaLisp.Proofs.Frame
import Mathlib.Data.List.Dedup

/-!
# The arena as a call stack

Under dynamic scoping a frame is attached below the scope of the call, and it is released when the
call ends.  If a run starts in the last scope of an arena whose scopes are one below the other, it
uses the arena as a stack: whenever a node is evaluated, inside arguments, after calls that are
over, in sources that are evaluated or included, the scope at hand is the last one, and the scopes
on the way to the root are those of the calls that are still active, the most recent one first.

What holds whenever a node is evaluated cannot be read off the end of a run.  So evaluation is put
*under watch*: each evaluation is told in which scopes the evaluations around it take place, and is
made only if it finds the arena as expected and leaves it so, but for a scope that is left over when
the stack of the host runs out.  Otherwise something else is done, which may be anything.  That the
run is the same whatever this is says that it never happens.

* `Arena.Stacked` — scopes one below the other.
* `Arena.Topped` — such scopes with one left over on top of them.
* `evaluateWatched` — evaluation under watch.
* `Nested`, `OnTop` — what is expected.
* `Footing.top`, `matches_watched` — the primitive steps and evaluation keep up what is expected.
* **`run_on_call_stack`** — the run of a source under dynamic scoping.
-/

namespace ArenaLisp

/-! ## Scopes one below the other -/

/-- An arena whose scopes are one below the other: the parent of each scope is the one before it. -/
structure Arena.Stacked (a : Arena) : Prop where
  root : ∀ sc, a.scope? 0 = some sc → sc.parent = none
  parent : ∀ i sc, a.scope? (i + 1) = some sc → sc.parent = some i

namespace Arena

/-- The arena `a'` is the arena `a`, perhaps with one scope left over on top of it. -/
def Topped (a a' : Arena) : Prop := a' = a ∨ a' = a.child (a.size - 1)

/-- The binding of a name in the scope of a handle. -/
def bindingIn (a : Arena) (name : String) (h : Handle) : Option Binding :=
  (a.scope? h).bind (·.get? name)

variable {a : Arena}

lemma Stacked.child (ha : a.Stacked) {h : Nat} (hh : h + 1 = a.size) : (a.child h).Stacked where
  root sc hs := by
    rw [scope?_child, if_neg (by omega)] at hs
    exact ha.root sc hs
  parent i sc hs := by
    rw [scope?_child] at hs
    split_ifs at hs with hi
    · obtain rfl : h = i := by omega
      cases hs
      rfl
    · exact ha.parent i sc hs

lemma Stacked.topped {a' : Arena} (ha : a.Stacked) (hpos : 0 < a.size) (h : a.Topped a') :
    a'.Stacked := by
  rcases h with rfl | rfl
  · exact ha
  · exact ha.child (Nat.sub_add_cancel hpos)

/-- From a scope of such an arena, the way to the root goes through all scopes before it. -/
lemma Stacked.way (ha : a.Stacked) : ∀ {h : Nat}, h < a.size →
    a.Way h (List.range (h + 1)).reverse := by
  intro h
  induction h with
  | zero =>
      intro hh
      obtain ⟨sc, hs⟩ := exists_scope hh
      exact .root hs (ha.root sc hs)
  | succ h ih =>
      intro hh
      obtain ⟨sc, hs⟩ := exists_scope hh
      rw [List.range_succ, List.reverse_concat]
      exact .step hs (ha.parent h sc hs) (Nat.lt_succ_self h) (ih (Nat.lt_of_succ_lt hh))

/-- A name has the binding of the first scope on the way that binds it. -/
lemma Way.lookup_eq {h : Nat} {way : List Handle} (hway : a.Way h way) (hh : h < a.size)
    (name : String) : a.lookup h name = .ok (way.findSome? (a.bindingIn name)) := by
  obtain ⟨scs, hscs⟩ := hway.exists_scopes
  have hfind : way.findSome? (a.bindingIn name) = scs.findSome? (·.get? name) := by
    calc way.findSome? (a.bindingIn name)
        = (way.map a.scope?).findSome? (·.bind (·.get? name)) := by
          rw [List.findSome?_map]
          rfl
      _ = (scs.map some).findSome? (·.bind (·.get? name)) := by rw [hscs]
      _ = scs.findSome? (·.get? name) := by
          rw [List.findSome?_map]
          rfl
  rw [lookup, chain, hway.chainFrom_eq (by omega), hscs, lookupAlong_live, hfind]

end Arena

/-- An evaluation leaves the scopes of a stack one below the other. -/
lemma Frame.stacked {s : Settings} {env : Handle} {a a' : Arena} (h : Frame s env a a')
    (hs : s.scoping = .dynamic) (ha : a.Stacked) : a'.Stacked := by
  have hparent : ∀ i sc', a'.scope? i = some sc' →
      ∃ sc, a.scope? i = some sc ∧ sc'.parent = sc.parent := by
    intro i sc' hs'
    have hi : i < a.size := h.dynamic hs ▸ Arena.lt_size hs'
    by_cases he : i = env
    · subst he
      obtain ⟨sc, hsc⟩ := Arena.exists_scope hi
      obtain ⟨other, hother, hgrows⟩ := h.own sc hsc
      rw [hs', Option.some.injEq] at hother
      subst hother
      exact ⟨sc, hsc, hgrows.parent⟩
    · exact ⟨sc', by rw [← h.others i hi he, hs'], rfl⟩
  constructor
  · intro sc' hs'
    obtain ⟨sc, hsc, hp⟩ := hparent 0 sc' hs'
    rw [hp, ha.root sc hsc]
  · intro i sc' hs'
    obtain ⟨sc, hsc, hp⟩ := hparent (i + 1) sc' hs'
    rw [hp, ha.parent i sc hsc]

/-! ## Evaluation under watch -/

open Classical in
/-- A computation that is made if it finds the arena as expected and leaves it so, however it ends,
but for a scope that is left over when the stack runs out; otherwise another one is made. -/
noncomputable def Run.watched (s : Settings) (expected : Arena → Prop) (run alarm : Run α) :
    Run α := fun w =>
  if expected w.arena ∧ run.EndsIn s expected w then run w else alarm w

/-- Evaluation under watch, with evaluations nested at most `depth` deep.  What is expected, and
what is done if it does not hold, may depend on the scope at hand and on those in which the
evaluations around this one take place, the innermost one first. -/
noncomputable def evaluateWatched (s : Settings) (expected : Handle → List Handle → Arena → Prop)
    (alarm : List Handle → Evaluation) : Nat → List Handle → Evaluation
  | 0, outer, node, env =>
    Run.watched s (expected env outer) (throw .recursionLimit) (alarm outer node env)
  | depth + 1, outer, node, env =>
    Run.watched s (expected env outer)
      (evaluateNode s reclaimFrame depth
        (evaluateWatched s expected alarm depth (env :: outer)) node env)
      (alarm outer node env)

/-- The scopes in which evaluations take place that are nested in one another, the innermost one
first.  The outermost one takes place in the scope `base`.  Each further one takes place in the
scope of the one around it, or in the one after that, which is the frame of a call. -/
inductive Nested (base : Handle) : List Handle → Prop where
  | outermost : Nested base [base]
  | same {env : Handle} {outer : List Handle} :
      Nested base (env :: outer) → Nested base (env :: env :: outer)
  | call {env : Handle} {outer : List Handle} :
      Nested base (env :: outer) → Nested base ((env + 1) :: env :: outer)

/-- **What is expected of an evaluation**: its scope is the last one of the arena, the scopes are
one below the other, and so are those of the evaluations around it. -/
structure OnTop (base env : Handle) (outer : List Handle) (a : Arena) : Prop where
  top : env + 1 = a.size
  stacked : a.Stacked
  nested : Nested base (env :: outer)

/-- The scopes of evaluations in progress are all those from the innermost one down to the
outermost. -/
lemma Nested.scopes {base : Handle} {stack : List Handle} (h : Nested base stack) :
    ∀ {env : Handle} {outer : List Handle}, stack = env :: outer →
      (∀ i ∈ stack, i ≤ env) ∧
        stack.dedup ++ (List.range base).reverse = (List.range (env + 1)).reverse := by
  induction h with
  | outermost =>
      rintro env outer ⟨⟩
      refine ⟨by simp, ?_⟩
      rw [List.range_succ, List.reverse_concat]
      rfl
  | @same env outer _ ih =>
      rintro _ _ ⟨⟩
      obtain ⟨hle, hscopes⟩ := ih rfl
      refine ⟨List.forall_mem_cons.mpr ⟨Nat.le_refl _, hle⟩, ?_⟩
      rwa [List.dedup_cons_of_mem List.mem_cons_self]
  | @call env outer _ ih =>
      rintro _ _ ⟨⟩
      obtain ⟨hle, hscopes⟩ := ih rfl
      have hle' : ∀ i ∈ env :: outer, i ≤ env + 1 := fun i hi => Nat.le_succ_of_le (hle i hi)
      refine ⟨List.forall_mem_cons.mpr ⟨Nat.le_refl _, hle'⟩, ?_⟩
      have hnew : env + 1 ∉ env :: outer := fun hmem => Nat.not_succ_le_self env (hle _ hmem)
      have hrange : List.range (env + 1 + 1) = List.range (env + 1) ++ [env + 1] := List.range_succ
      rw [List.dedup_cons_of_notMem hnew, List.cons_append, hscopes, hrange, List.reverse_concat]

/-! ## Runs on top of the stack -/

/-- Nodes are evaluated in the last scope of arenas that are stacks: a frame is made on top of the
stack, below the scope of the call, and so is a scope that is left over. -/
def Footing.top {s : Settings} (hs : s.scoping = .dynamic) : Footing s where
  place a h := h + 1 = a.size ∧ a.Stacked
  left := Arena.Topped
  place_of_frame hp h := ⟨h.1.trans (hp.dynamic hs).symm, hp.stacked hs h.2⟩
  callee _ h := by simpa [Settings.frameParent, hs] using h
  frame h := ⟨(Arena.size_child _ _).symm, h.2.child h.1⟩
  left_child h := by
    rw [Arena.Topped, ← h.1, Nat.add_sub_cancel]
    exact Or.inr rfl
  left_leave hframe hleft := by
    -- leaving the frame takes along what was left over on top of it
    refine Or.inl ?_
    rw [Arena.leave_of_release (Or.inl hs), Arena.leave_of_release (Or.inl hs)]
    rcases hleft with heq | heq
    · rw [heq]
    · rw [heq, Arena.release_child _ (Nat.le_of_lt hframe.size_lt)]
  spilled h := h.imp_right fun heq => ⟨_, heq⟩

namespace Coupling

variable {α β : Type} {s : Settings} {hs : s.scoping = .dynamic} {g g' : Handle} {a : Arena}

lemma onTop_eq {r r' : EStateM.Result Fault World Value}
    (hr : (within (.top hs)).Outcomes g g' a (within (.top hs)).values r r') : r' = r := by
  cases hr with
  | ok _ hw hv =>
      cases hw.1
      cases hv
      rfl
  | error _ hw he =>
      cases hw.1
      cases he
      rfl

/-- An outcome on top of the stack comes about there, but for a scope on top that is left over. -/
lemma onTop_topped {R : Arena → α → β → Prop} {x : Run α} {y : Run β} {w w' : World}
    (hr : (within (.top hs)).Outcomes g g' a R (x w) (y w')) :
    ∃ a₁, Frame s g a a₁ ∧ a₁.Topped (y.after w').arena := by
  unfold Run.after
  generalize x w = r at hr
  generalize y w' = r' at hr ⊢
  cases hr with
  | ok hp hw _ =>
      obtain ⟨rfl, rfl⟩ := hw
      exact ⟨_, hp, Or.inl rfl⟩
  | error hb hw _ =>
      obtain ⟨rfl, rfl⟩ := hw
      rcases hb with hp | ⟨-, -, a₁, hframe, htopped⟩
      · exact ⟨_, hp, Or.inl rfl⟩
      · exact ⟨a₁, hframe, htopped⟩

/-- On top of the stack the watch finds what is expected. -/
lemma onTop_watched {base env : Handle} {outer : List Handle} {x y alarm : Run Value}
    (hnested : Nested base (env :: outer)) (hh : (within (.top hs)).handles a env env)
    (hxy : (within (.top hs)).Coupled env env a (within (.top hs)).values x y) :
    (within (.top hs)).Coupled env env a (within (.top hs)).values x
      (Run.watched s (OnTop base env outer) y alarm) := by
  intro w w' hw
  have hr := hxy w w' hw
  obtain ⟨rfl, rfl⟩ : w' = w ∧ w.arena = a := hw
  have hbefore : OnTop base env outer w'.arena := ⟨hh.2.1, hh.2.2, hnested⟩
  have hafter : y.EndsIn s (OnTop base env outer) w' := (endsIn_of_within hr).mono fun a₁ hframe =>
    ⟨hh.2.1.trans (hframe.dynamic hs).symm, hframe.stacked hs hh.2.2, hnested⟩
  rw [Run.watched, if_pos ⟨hbefore, hafter⟩]
  exact hr

end Coupling

/-- **Evaluation keeps to what is expected**, whatever would be done if it did not.  The induction
is on how deep evaluations may still be nested: those that one evaluation makes take place in its
own scope or in the frame of a call that it makes. -/
lemma matches_watched {s : Settings} (hs : s.scoping = .dynamic) (base : Handle)
    (alarm : List Handle → Evaluation) : ∀ (depth : Nat) {env : Handle} {outer : List Handle},
      Nested base (env :: outer) →
        (Coupling.within (.top hs)).MatchesIn env env (evaluateWith s reclaimFrame depth)
          (evaluateWatched s (OnTop base) alarm depth outer) := by
  intro depth
  induction depth with
  | zero =>
      intro env outer hnested a node _ hh
      exact Coupling.onTop_watched hnested hh (.throw rfl)
  | succ depth ih =>
      intro env outer hnested a node hf hh
      have hev : (Coupling.within (.top hs)).MatchesFrom env env (evaluateWith s reclaimFrame depth)
          (evaluateWatched s (OnTop base) alarm depth (env :: outer)) := by
        refine ⟨ih hnested.same, ?_⟩
        intro a₁ w₁ w₁' hh₁ hw₁
        obtain ⟨rfl, rfl⟩ : w₁' = w₁ ∧ w₁.arena = a₁ := hw₁
        rw [← hh₁.2.1]
        exact ih hnested.call
      exact Coupling.onTop_watched hnested hh
        ((Coupling.within_laws (.top hs)).rules.evaluateNode hev hf hh)

/-- **Under dynamic scoping the arena is the call stack.**  Take a run that starts in the last scope
of an arena whose scopes are one below the other.  Each evaluation in it is told in which scopes the
evaluations around it take place, and looks whether its own scope is the last one and the scopes are
one below the other, when it begins and when it ends.  They always are, but for a scope that is left
over when the stack of the host runs out, and after that no more nodes are evaluated: whatever would
be done if they were not, the run is the same.  The run also leaves such an arena behind, so that
the next one can start in its last scope; and that is the same one, or the one that is left over.

In such an arena, the scopes of the evaluations in progress, the innermost one first, and then those
that lie below the scope of the run, are all there are, the last one first.  So a name has the
binding of the most recent call that is still active and binds it; and if there is none, the one
that it has in the scopes in which the run started. -/
theorem run_on_call_stack {s : Settings} (hs : s.scoping = .dynamic) {w : World} {env : Handle}
    (htop : env + 1 = w.arena.size) (hstacked : w.arena.Stacked) (depth : Nat) (source : String) :
    (∀ alarm, runWith (evaluateWatched s (OnTop env) alarm depth []) source env w =
      runWith (evaluateWith s reclaimFrame depth) source env w) ∧
    ((runWith (evaluateWith s reclaimFrame depth) source env).EndsIn s (env + 1 = ·.size) w ∧
      ((runWith (evaluateWith s reclaimFrame depth) source env).after w).arena.Stacked) ∧
    ∀ h outer a, OnTop env h outer a →
      (h :: outer).dedup ++ (List.range env).reverse = (List.range a.size).reverse ∧
      ∀ name, a.lookup h name =
        .ok (((h :: outer).dedup.findSome? (a.bindingIn name)).or
          ((List.range env).reverse.findSome? (a.bindingIn name))) := by
  have L := Coupling.within_laws (.top hs)
  have hhandles : (Coupling.within (.top hs)).handles w.arena env env := ⟨rfl, htop, hstacked⟩
  refine ⟨fun alarm => ?_, ?_, ?_⟩
  · have hev : (Coupling.within (.top hs)).MatchesIn env env (evaluateWith s reclaimFrame depth)
        (evaluateWatched s (OnTop env) alarm depth []) :=
      matches_watched hs env alarm depth .outermost
    exact Coupling.onTop_eq <| L.rules.runWith_of_matchesIn hev (fun _ _ _ _ => trivial) hhandles w w
      ⟨rfl, rfl⟩
  · have hrun := L.runWith (L.evaluateWith depth) source hhandles w w ⟨rfl, rfl⟩
    have hends := Coupling.endsIn_of_within hrun
    obtain ⟨a₁, hframe, htopped⟩ := Coupling.onTop_topped hrun
    refine ⟨hends.mono fun a₂ hframe₂ => htop.trans (hframe₂.dynamic hs).symm, ?_⟩
    have hpos : 0 < a₁.size := by
      rw [hframe.dynamic hs, ← htop]
      exact Nat.succ_pos env
    exact (hframe.stacked hs hstacked).topped hpos htopped
  · intro h outer a honTop
    have hscopes := (honTop.nested.scopes rfl).2
    have hlt : h < a.size := honTop.top ▸ Nat.lt_succ_self h
    refine ⟨by rw [hscopes, honTop.top], fun name => ?_⟩
    rw [(honTop.stacked.way hlt).lookup_eq hlt, ← hscopes, List.findSome?_append]

/-- A call inside a call, where the inner one sees the parameter of the outer one. -/
theorem run_on_call_stack_shadowed :
    let a : Arena := ⟨#[{ bindings := [("x", .constant (.integer 1)),
      ("f", .constant (.lambda [] [.symbol "x"] none)),
      ("g", .constant (.lambda ["x"] [.list [.symbol "f"]] none))] }]⟩
    let inner : Arena := ((a.child 0).define 1 "x" (.integer 2)).child 1
    let run := runWith (evaluateWith {} reclaimFrame 10) "(g 2)" 0
    (∀ alarm, runWith (evaluateWatched {} (OnTop 0) alarm 10 []) "(g 2)" 0 { arena := a } =
      run { arena := a }) ∧
    (match run { arena := a } with
      | .ok value _ => value.same (.integer 2)
      | .error _ _ => false) = true ∧
    OnTop 0 2 [1, 0] inner ∧ inner.lookup 2 "x" = .ok (some (.constant (.integer 2))) := by
  intro a inner run
  have hstacked : a.Stacked := by
    constructor
    · rintro sc ⟨⟩
      rfl
    · rintro i sc ⟨⟩
  have hframe : Frame {} 1 (a.child 0) ((a.child 0).define 1 "x" (.integer 2)) := Frame.define _ _
  have honTop : OnTop 0 2 [1, 0] inner :=
    ⟨rfl, (hframe.stacked rfl (hstacked.child rfl)).child rfl, Nested.outermost.call.call⟩
  obtain ⟨hrun, -, hnames⟩ := run_on_call_stack (rfl : ({} : Settings).scoping = .dynamic)
    (show 0 + 1 = ({ arena := a } : World).arena.size from rfl) hstacked 10 "(g 2)"
  exact ⟨hrun, by decide +kernel, honTop, ((hnames 2 [1, 0] inner honTop).2 "x").trans rfl⟩

end ArenaLisp
