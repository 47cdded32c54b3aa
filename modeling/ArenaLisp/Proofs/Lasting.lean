import ArenaLisp.Proofs.Journal
import Mathlib.Data.List.Induction

/-!
# Lambdas do not dangle

A lambda made under lexical scoping holds on to a scope by its index.  Indices are used again after
a frame was released, so a lambda that outlives its scope would silently see another one.  This file
shows that none ever does: a scope that a lambda was made in stays, from that moment to the end of
time, whatever is run afterwards and under whichever scoping.

The argument is about journals.  An event is *allowed* at a point if the scopes it uses are live,
the lambdas in its value have been made, and no held scope is released.  An arena that allowed
events lead to is in good order (`Sound`), and the evaluator only goes through allowed events.

* `Event.Allowed`, `Legal` — journals in which every event was allowed when it came.
* `Sound` — the invariant, kept by one event (`Sound.next`) and so by all (`Legal.sound`).
* `Journal.Follows` — a computation that goes through allowed events only.
* **`Journal.follows_evaluateWith`** — the evaluator does.
* `History` — any sequence of runs on one arena.
* **`History.no_dangling_closure`** — no lambda ever dangles.
-/

namespace ArenaLisp

/-- A lambda form was evaluated, with the parameters and the body of a lambda and in the scope that
the lambda holds on to. -/
def Made (past : List Moment) (c : Closure) : Prop := ∃ m ∈ past, m.event = .made c

/-- Every lambda inside a value that holds on to a scope has been made. -/
def Known (past : List Moment) (value : Value) : Prop := ∀ c ∈ value.closures, Made past c

/-- When an event may come at a point. -/
def Event.Allowed (past : List Moment) : Event → Prop
  | .opened parent => parent < (arenaAt past).size
  | .bound _ _ value => Known past value
  | .made closure => closure.scope < (arenaAt past).size
  | .released frame => 0 < frame ∧ ∀ i, (arenaAt past).Holds i → i < frame
  | .evaluated value => Known past value

/-- A journal in which each event was allowed when it came and did what it does. -/
inductive Legal : List Moment → Prop where
  | start : Legal []
  | next {past : List Moment} {m : Moment} : Legal past → m.event.Allowed past →
      m.arena = m.event.apply (arenaAt past) → Legal (past ++ [m])

/-- The arena at a point is in good order: it is rooted, whatever lambda is bound in it has been
made, and every lambda that has been made holds on to a scope that is live and marked. -/
structure Sound (past : List Moment) : Prop where
  rooted : (arenaAt past).Rooted
  binds : (arenaAt past).Binds (Made past)
  held : ∀ c, Made past c → (arenaAt past).Holds c.scope

variable {past now : List Moment}

lemma Made.mono {c : Closure} (h : Made past c) (hp : past <+: now) : Made now c := by
  obtain ⟨m, hm, he⟩ := h
  exact ⟨m, hp.subset hm, he⟩

lemma made_concat {m : Moment} {c : Closure} :
    Made (past ++ [m]) c ↔ Made past c ∨ m.event = .made c := by
  simp [Made, or_and_right, exists_or]

/-! ## The invariant -/

lemma sound_nil : Sound [] where
  rooted := arenaAt_nil ▸ Arena.rooted_default
  binds := arenaAt_nil ▸ Arena.binds_default _
  held _ h := absurd h (by simp [Made])

/-- An allowed event keeps the arena in good order. -/
lemma Sound.next (h : Sound past) {m : Moment} (he : m.event.Allowed past)
    (ha : m.arena = m.event.apply (arenaAt past)) : Sound (past ++ [m]) := by
  obtain ⟨event, arena⟩ := m
  simp only at he ha
  have hbinds : (arenaAt past).Binds (Made (past ++ [⟨event, arena⟩])) :=
    h.binds.mono fun c hc => made_concat.mpr (Or.inl hc)
  -- but for the making of a lambda, what has been made was made before
  have hheld : (∀ c, event ≠ .made c) → ∀ c, Made (past ++ [⟨event, arena⟩]) c →
      (arenaAt past).Holds c.scope := by
    intro hne c hc
    rcases made_concat.mp hc with hc | hc
    · exact h.held c hc
    · exact absurd hc (hne c)
  subst ha
  cases event with
  | opened parent =>
      refine ⟨?_, ?_, fun c hc => ?_⟩ <;> rw [arenaAt_concat]
      · exact h.rooted.child he
      · exact hbinds.child parent
      · exact Arena.holds_child.mpr (hheld (by simp) c hc)
  | bound scope name value =>
      refine ⟨?_, ?_, fun c hc => ?_⟩ <;> rw [arenaAt_concat]
      · exact h.rooted.define scope name value
      · exact hbinds.define scope name fun c hc => made_concat.mpr (Or.inl (he c hc))
      · exact Arena.holds_define.mpr (hheld (by simp) c hc)
  | made closure =>
      refine ⟨?_, ?_, fun c hc => ?_⟩ <;> rw [arenaAt_concat]
      · exact h.rooted.capture closure.scope
      · exact hbinds.capture closure.scope
      · refine Arena.holds_capture.mpr ?_
        rcases made_concat.mp hc with hc | hc
        · exact Or.inr (h.held c hc)
        · obtain rfl : closure = c := Event.made.inj hc
          exact Or.inl ⟨rfl, he⟩
  | released frame =>
      refine ⟨?_, ?_, fun c hc => ?_⟩ <;> rw [arenaAt_concat]
      · exact h.rooted.release he.1
      · exact hbinds.release frame
      · have hc' := hheld (by simp) c hc
        exact Arena.holds_release.mpr ⟨he.2 _ hc', hc'⟩
  | evaluated value =>
      refine ⟨?_, ?_, fun c hc => ?_⟩ <;> rw [arenaAt_concat]
      · exact h.rooted
      · exact hbinds
      · exact hheld (by simp) c hc

theorem Legal.sound (h : Legal past) : Sound past := by
  induction h with
  | start => exact sound_nil
  | next _ he ha ih => exact ih.next he ha

lemma Legal.of_concat {m : Moment} (h : Legal (past ++ [m])) :
    Legal past ∧ m.event.Allowed past := by
  generalize heq : past ++ [m] = all at h
  cases h with
  | start => simp at heq
  | next h he _ =>
      obtain ⟨rfl, hs⟩ := List.append_inj' heq rfl
      obtain rfl := List.singleton_inj.mp hs
      exact ⟨h, he⟩

/-- Every point on the way was legal. -/
lemma Legal.of_append {rest : List Moment} (h : Legal (past ++ rest)) : Legal past := by
  induction rest using List.reverseRecOn with
  | nil => rwa [List.append_nil] at h
  | append_singleton rest m ih =>
      rw [← List.append_assoc] at h
      exact ih h.of_concat.1

/-- Every event on the way was allowed when it came. -/
lemma Legal.allowed {rest : List Moment} {m : Moment} (h : Legal (past ++ m :: rest)) :
    m.event.Allowed past := by
  rw [List.append_cons] at h
  exact h.of_append.of_concat.2

/-! ## Computations that go through allowed events -/

lemma Known.mono {value : Value} (h : Known past value) (hp : past <+: now) : Known now value :=
  fun c hc => (h c hc).mono hp

lemma known_of_closures_eq_nil {value : Value} (h : value.closures = []) : Known past value := by
  simp [Known, h]

/-- How a journal may go on while nodes are evaluated in a scope. -/
structure Reaches (s : Settings) (env : Handle) (past now : List Moment) : Prop where
  legal : Legal now
  isPrefix : past <+: now
  frame : Frame s env (arenaAt past) (arenaAt now)

lemma Reaches.refl {s : Settings} {env : Handle} (h : Legal past) : Reaches s env past past :=
  ⟨h, List.prefix_rfl, .refl _⟩

lemma Reaches.trans {s : Settings} {env : Handle} {later : List Moment}
    (h : Reaches s env past now) (h' : Reaches s env now later) : Reaches s env past later :=
  ⟨h'.legal, h.isPrefix.trans h'.isPrefix, h.frame.trans h'.frame⟩

/-- How a journal may have gone on when an evaluation in a scope ended in a fault. -/
structure Strands (s : Settings) (env : Handle) (past now : List Moment) : Prop where
  legal : Legal now
  isPrefix : past <+: now
  spills : Spills s env (arenaAt past) (arenaAt now)

lemma Reaches.strands {s : Settings} {env : Handle} (h : Reaches s env past now) :
    Strands s env past now :=
  ⟨h.legal, h.isPrefix, h.frame.spills⟩

lemma Strands.of_reaches {s : Settings} {env : Handle} {later : List Moment}
    (h : Reaches s env past now) (h' : Strands s env now later) : Strands s env past later :=
  ⟨h'.legal, h.isPrefix.trans h'.isPrefix, h'.spills.of_frame h.frame⟩

/-- A scope that was live is still live. -/
lemma Reaches.live {s : Settings} {env : Handle} (h : Reaches s env past now) {i : Nat}
    (hi : i < (arenaAt past).size) : i < (arenaAt now).size :=
  Nat.lt_of_lt_of_le hi h.frame.size_le

namespace Journal

/-- An outcome and the moments before it: they lead to its arena, their events were allowed, and no
released scope was met. -/
inductive Ends (s : Settings) (env : Handle) (past : List Moment) (R : List Moment → α → Prop) :
    EStateM.Result Fault World α → List Moment → Prop where
  | ok {value : α} {w : World} {moments : List Moment} :
      Reaches s env past (past ++ moments) → w.arena = arenaAt (past ++ moments) →
      R (past ++ moments) value → Ends s env past R (.ok value w) moments
  | error {fault : Fault} {w : World} {moments : List Moment} :
      Strands s env past (past ++ moments) → w.arena = arenaAt (past ++ moments) →
      fault ≠ .stray .releasedScope → Ends s env past R (.error fault w) moments

/-- A computation that, after allowed events, goes through allowed events only. -/
def Follows (s : Settings) (env : Handle) (past : List Moment) (R : List Moment → α → Prop)
    (x : Journal α) : Prop :=
  ∀ w : World, Legal past → w.arena = arenaAt past → Ends s env past R (x.run w) (x.moments w)

variable {s : Settings} {env : Handle} {α β : Type} {R : List Moment → α → Prop}
  {S : List Moment → β → Prop}

lemma Ends.here {value : α} {w : World} (hl : Legal past) (hw : w.arena = arenaAt past)
    (hR : R past value) : Ends s env past R (.ok value w) [] := by
  have hnil := (List.append_nil past).symm
  exact .ok (hnil ▸ .refl hl) (hnil ▸ hw) (hnil ▸ hR)

lemma Ends.fail {fault : Fault} {w : World} (hl : Legal past) (hw : w.arena = arenaAt past)
    (hf : fault ≠ .stray .releasedScope) : Ends s env past R (.error fault w) [] := by
  have hnil := (List.append_nil past).symm
  exact .error (hnil ▸ (Reaches.refl hl).strands) (hnil ▸ hw) hf

lemma Ends.trans {moments rest : List Moment} {r : EStateM.Result Fault World α}
    (hp : Reaches s env past (past ++ moments)) (h : Ends s env (past ++ moments) R r rest) :
    Ends s env past R r (moments ++ rest) := by
  cases h with
  | ok hp' hw hR =>
      rw [List.append_assoc] at hp' hw hR
      exact .ok (hp.trans hp') hw hR
  | error hp' hw hf =>
      rw [List.append_assoc] at hp' hw
      exact .error (.of_reaches hp hp') hw hf

lemma Follows.pure {value : α} (h : R past value) :
    Follows s env past R (Pure.pure value : Journal α) :=
  fun _ hl hw => .here hl hw h

lemma Follows.throw {fault : Fault} (hf : fault ≠ .stray .releasedScope) :
    Follows s env past R (quiet (MonadExcept.throw fault)) :=
  fun _ hl hw => .fail hl hw hf

/-- Two computations in sequence. -/
lemma Follows.bind {x : Journal α} {f : α → Journal β} (hx : Follows s env past R x)
    (hf : ∀ now value, Reaches s env past now → R now value → Follows s env now S (f value)) :
    Follows s env past S (x >>= f) := by
  intro w hl hw
  have h := hx w hl hw
  show Ends s env past S ((x.run >>= fun value => (f value).run) w) ((x >>= f).moments w)
  cases hrun : x.run w with
  | ok value w' =>
      rw [hrun] at h
      obtain ⟨hp, hw', hR⟩ := h
      rw [bind_of_ok hrun, moments_bind_of_ok hrun]
      exact .trans hp (hf _ _ hp hR _ hp.legal hw')
  | error fault w' =>
      rw [hrun] at h
      obtain _ | ⟨hp, hw', hfault⟩ := h
      rw [bind_of_error hrun, moments_bind_of_error hrun]
      exact .error hp hw' hfault

/-- A computation that leaves the arena alone and meets no released scope. -/
lemma Follows.quiet {x : Run α} {Q : α → α → Prop} {P : Closure → Prop}
    (h : Quiet some P False (arenaAt past) (arenaAt past) Q x x)
    (hR : ∀ value, Q value value → R past value) : Follows s env past R (quiet x) := by
  intro w hl hw
  have hr := h w w ⟨hw, hw, .refl w⟩
  show Ends s env past R (x w) []
  generalize x w = r at hr ⊢
  cases hr with
  | ok _ hw' hQ => exact .here hl hw'.1 (hR _ hQ)
  | error _ hw' he => exact .fail hl hw'.1 he.2

/-- A computation that is one allowed event. -/
lemma Follows.step {x : Run α} {event : Event} (he : event.Allowed past)
    (hf : Frame s env (arenaAt past) (event.apply (arenaAt past)))
    (hx : ∀ w : World, w.arena = arenaAt past →
      ∃ value w', x w = .ok value w' ∧ w'.arena = event.apply (arenaAt past) ∧
        R (past ++ [⟨event, w'.arena⟩]) value) : Follows s env past R (step x event) := by
  intro w hl hw
  obtain ⟨value, w', hrun, harena, hR⟩ := hx w hw
  show Ends s env past R (x w) ((Journal.step x event).moments w)
  rw [moments_step_of_ok hrun, hrun]
  refine .ok ⟨hl.next he harena, List.prefix_append _ _, ?_⟩ ?_ hR
  · rwa [arenaAt_concat, harena]
  · rw [arenaAt_concat]

/-! ## The primitive steps -/

/-- Every lambda inside the value of a binding that holds on to a scope has been made. -/
def KnownBinding (past : List Moment) (binding : Binding) : Prop :=
  ∀ c ∈ binding.closures, Made past c

lemma follows_lookup (name : String) {h : Handle} (hh : h < (arenaAt past).size) :
    Follows s env past (fun now found => ∀ binding, found = some binding → KnownBinding now binding)
      (quiet (Run.lookup h name)) := by
  intro w hl hw
  obtain ⟨found, hfound, hmem⟩ := hl.sound.rooted.lookup_ok hh name
  show Ends s env past _ (Run.lookup h name w) []
  rw [Run.lookup_eq, hw, hfound]
  refine .here hl hw fun binding hb => ?_
  obtain ⟨j, sc, hs, hin⟩ := hmem binding hb
  exact hl.sound.binds j sc hs _ hin

lemma follows_define (name : String) {value : Value} (he : env < (arenaAt past).size)
    (hv : Known past value) :
    Follows s env past (fun _ _ => True)
      (step (Run.define env name value) (.bound env name value)) := by
  refine .step hv (Frame.define name value) fun w hw => ?_
  exact ⟨(), _, Run.define_of_live (hw ▸ he) name value, by rw [hw]; rfl, trivial⟩

lemma follows_makeLambda (params : List String) (body : List Node)
    (he : env < (arenaAt past).size) : Follows s env past Known (makeLambda s params body env) := by
  unfold makeLambda
  cases hs : s.scoping with
  | dynamic => exact .pure (known_of_closures_eq_nil (by simp [Value.closures_lambda]))
  | lexical =>
      let c : Closure := ⟨params, body, env⟩
      refine Follows.bind (R := fun now _ => Made now c) (.step he (Frame.capture hs) ?_) ?_
      · intro w hw
        exact ⟨(), _, Run.capture_of_live (hw ▸ he), by rw [hw]; rfl,
          made_concat.mpr (Or.inr rfl)⟩
      · intro now _ _ hmade
        refine .pure fun c' hc' => ?_
        obtain rfl : c' = c := by simpa [Value.closures_lambda] using hc'
        exact hmade

lemma follows_apply (b : Builtin) {h : Handle} (hh : h < (arenaAt past).size)
    {args : List Value} (ha : ∀ arg ∈ args, Known past arg) :
    Follows s env past Known (quiet (b.apply h args)) := by
  intro w hl
  obtain ⟨sc, hs⟩ := Arena.exists_scope hh
  obtain ⟨names, hnames⟩ := hl.sound.rooted.names_ok hh
  refine Follows.quiet (Builtin.quiet b rfl rfl ?_ ?_) (fun value hv => hv.2) w hl
  · rintro e (he | he)
    · simp [Arena.localNames, hs] at he
    · simp [hnames] at he
  · exact List.forall₂_same.mpr fun arg harg => ⟨(Value.rescope_some arg).symm, ha arg harg⟩

/-! ## The evaluator -/

/-- A way of evaluating nodes that goes through allowed events only, from any live scope. -/
def Faithful (s : Settings) (ev : Evaluation) : Prop :=
  ∀ (past : List Moment) (node : Node) (env : Handle), env < (arenaAt past).size →
    Follows s env past Known (ev node env)

variable {left : Nat} {ev : Evaluation}

lemma follows_evaluateAll (hev : Faithful s ev) : ∀ (nodes : List Node) {past : List Moment},
    env < (arenaAt past).size →
      Follows s env past (fun now values => ∀ value ∈ values, Known now value)
        (evaluateAll ev env nodes) := by
  intro nodes
  induction nodes with
  | nil => exact fun _ => .pure (by simp)
  | cons node rest ih =>
      intro past he
      refine (hev past node env he).bind fun now value hp hv => ?_
      refine (ih (hp.live he)).bind fun later values hp' hvs => ?_
      refine .pure fun v hmem => ?_
      rcases List.mem_cons.mp hmem with rfl | hmem
      · exact hv.mono hp'.isPrefix
      · exact hvs v hmem

lemma follows_evaluateBody (hev : Faithful s ev) : ∀ (nodes : List Node) {past : List Moment}
    {last : Value}, env < (arenaAt past).size → Known past last →
      Follows s env past Known (evaluateBody ev env last nodes) := by
  intro nodes
  induction nodes with
  | nil => exact fun _ hl => .pure hl
  | cons node rest ih =>
      intro past last he _
      refine (hev past node env he).bind fun now value hp hv => ?_
      exact ih (hp.live he) hv

lemma follows_runWith (hev : Faithful s ev) (source : String) (he : env < (arenaAt past).size) :
    Follows s env past Known (runWith ev source env) := by
  unfold runWith
  cases parse source with
  | error fault => exact .throw (by simp)
  | ok nodes => exact follows_evaluateBody hev nodes he (known_of_closures_eq_nil (by simp))

lemma follows_bindParams : ∀ (params : List String) (args : List Value) {past : List Moment},
    env < (arenaAt past).size → (∀ arg ∈ args, Known past arg) →
      Follows s env past (fun _ _ => True) (bindParams env params args) := by
  intro params
  induction params with
  | nil => exact fun _ _ _ _ => .pure trivial
  | cons param params ih =>
      intro args past he ha
      cases args with
      | nil => exact .pure trivial
      | cons arg args =>
          refine (follows_define param he (ha arg (by simp))).bind fun now _ hp _ => ?_
          refine ih args (hp.live he) fun v hv => ?_
          exact (ha v (List.mem_cons_of_mem _ hv)).mono hp.isPrefix

lemma follows_inFrame (hev : Faithful s ev) (params : List String) (body : List Node)
    {args : List Value} (he : env < (arenaAt past).size) (ha : ∀ arg ∈ args, Known past arg) :
    Follows s env past Known (inFrame ev params body args env) := by
  refine (follows_bindParams params args he ha).bind fun now _ hp _ => ?_
  exact follows_evaluateBody hev body (hp.live he) (known_of_closures_eq_nil (by simp))

/-- Leaving a frame is allowed.  If the frame is released, nothing from it on is held: under lexical
scoping that was checked, under dynamic scoping nothing was marked while the call lasted. -/
lemma legal_left {parent : Handle} {w : World} (hl : Legal past)
    (h : Strands s (arenaAt past).size (past ++ [⟨.opened parent, (arenaAt past).child parent⟩]) now)
    (hw : w.arena = arenaAt now) :
    let frame := (arenaAt past).size
    let all := now ++ released s frame w
    Legal all ∧ past <+: all ∧ (reclaimFrame s frame w).arena = arenaAt all := by
  intro frame all
  have hspills : Spills s frame ((arenaAt past).child parent) w.arena := by
    have hs := h.spills
    rwa [arenaAt_concat, ← hw] at hs
  refine ⟨?_, ?_, ?_⟩
  · simp only [all, released]
    split_ifs with hc
    · refine h.legal.next ⟨hl.sound.rooted.size_pos, ?_⟩ ?_
      · rw [← hw]
        rcases hspills.leave_cases with ⟨_, hheld⟩ | ⟨_, hs, hheld⟩
        · exact hheld
        · simp [hs, frame, Arena.isCaptured_iff.mpr hheld] at hc
      · rw [reclaimFrame_arena, Arena.leave, if_pos hc, hw]
        rfl
    · rw [List.append_nil]
      exact h.legal
  · exact (List.prefix_append _ _).trans (h.isPrefix.trans (List.prefix_append _ _))
  · simp only [all, released]
    split_ifs with hc
    · rw [arenaAt_concat]
    · rw [List.append_nil, reclaimFrame_arena, Arena.leave, if_neg hc, hw]

lemma reaches_left (env : Handle) {parent : Handle} {w : World} (hl : Legal past)
    (h : Reaches s (arenaAt past).size (past ++ [⟨.opened parent, (arenaAt past).child parent⟩]) now)
    (hw : w.arena = arenaAt now) :
    Reaches s env past (now ++ released s (arenaAt past).size w) := by
  obtain ⟨hlegal, hprefix, harena⟩ := legal_left hl h.strands hw
  have hframe := h.frame
  rw [arenaAt_concat, ← hw] at hframe
  refine ⟨hlegal, hprefix, ?_⟩
  rw [← harena, reclaimFrame_arena]
  exact hframe.leave.frame env

lemma strands_left (env : Handle) {parent : Handle} {w : World} (hl : Legal past)
    (h : Strands s (arenaAt past).size (past ++ [⟨.opened parent, (arenaAt past).child parent⟩]) now)
    (hw : w.arena = arenaAt now) :
    Strands s env past (now ++ released s (arenaAt past).size w) := by
  obtain ⟨hlegal, hprefix, harena⟩ := legal_left hl h hw
  have hspills := h.spills
  rw [arenaAt_concat, ← hw] at hspills
  obtain ⟨a₁, hspares, hspilled⟩ := hspills.leave
  refine ⟨hlegal, hprefix, a₁, hspares.frame env, ?_⟩
  rwa [← harena, reclaimFrame_arena]

lemma Ends.leaving {x : Journal Value} {w : World} {parent : Handle} (hl : Legal past)
    (h : Ends s (arenaAt past).size (past ++ [⟨.opened parent, (arenaAt past).child parent⟩]) Known
      (x.run w) (x.moments w)) :
    Ends s env past Known ((leaving s (arenaAt past).size x).run w)
      ([⟨.opened parent, (arenaAt past).child parent⟩] ++
        (leaving s (arenaAt past).size x).moments w) := by
  simp only [Journal.leaving, Run.guarded, Run.after]
  generalize x.run w = r at h ⊢
  generalize x.moments w = moments at h ⊢
  cases h with
  | @ok value w' _ hp hw hv =>
      have hleft := reaches_left env hl hp hw
      have harena := (legal_left hl hp.strands hw).2.2
      have hknown := hv.mono (List.prefix_append _ (released s (arenaAt past).size w'))
      rw [List.append_assoc, List.append_assoc] at hleft harena hknown
      exact .ok hleft harena hknown
  | error hp hw hf =>
      have hleft := strands_left env hl hp hw
      have harena := (legal_left hl hp hw).2.2
      rw [List.append_assoc, List.append_assoc] at hleft harena
      exact .error hleft harena hf

/-- A call goes through allowed events only, also if the stack runs out when its frame is there. -/
lemma follows_callLambda (hev : Faithful s ev) (name : String) (params : List String)
    (body : List Node) {captured : Option Handle} {args : List Value} {h : Handle}
    (hparent : s.frameParent captured h < (arenaAt past).size)
    (ha : ∀ arg ∈ args, Known past arg) :
    Follows s env past Known (callLambda s left ev name params body captured args h) := by
  unfold callLambda
  split_ifs with hlen hbody
  · exact .throw (by simp)
  · exact .throw (by simp)
  · intro w hl hw
    let parent := s.frameParent captured h
    have hnext : Legal (past ++ [⟨.opened parent, (arenaAt past).child parent⟩]) :=
      hl.next hparent rfl
    by_cases hroom : s.stack.trace ≤ left
    · have hopen : (openScope parent (s.stack.trace ≤ left)).run w =
          .ok w.arena.size (w.opened parent) :=
        Run.openScope_of_room parent (decide_eq_true hroom) w
      rw [run_bind, bind_of_ok hopen, moments_bind_of_ok hopen, moments_openScope, hw]
      refine Ends.leaving hl (follows_inFrame hev params body ?_ ?_ _ hnext ?_)
      · rw [arenaAt_concat]
        simp
      · exact fun arg harg => (ha arg harg).mono (List.prefix_append _ _)
      · rw [arenaAt_concat, World.opened_arena, hw]
    · have hopen : (openScope parent (s.stack.trace ≤ left)).run w =
          .error .recursionLimit (w.withArena (w.arena.child parent)) :=
        Run.openScope_of_cramped parent (decide_eq_false hroom) w
      rw [run_bind, bind_of_error hopen, moments_bind_of_error hopen, moments_openScope, hw]
      refine .error ⟨hnext, List.prefix_append _ _, ?_⟩ (by rw [arenaAt_concat]; rfl) (by simp)
      rw [arenaAt_concat]
      exact ⟨_, Frame.refl _, Or.inr ⟨parent, rfl⟩⟩

/-- A lambda that has been made can be called: the scope its frame is opened under is live. -/
lemma frameParent_live (hl : Legal past) {params : List String} {body : List Node}
    {captured : Option Handle} (hv : Known past (.lambda params body captured)) {h : Handle}
    (hh : h < (arenaAt past).size) : s.frameParent captured h < (arenaAt past).size := by
  unfold Settings.frameParent
  cases s.scoping with
  | dynamic => exact hh
  | lexical =>
      cases captured with
      | none => exact hh
      | some i => exact (hl.sound.held ⟨params, body, i⟩ (hv _ (by simp [Value.closures]))).lt_size

/-- Invoking a binding that is not a reference. -/
lemma follows_invoke_direct (hev : Faithful s ev) (forwards : Nat) (name : String)
    {binding : Binding} {args : List Value} {h : Handle} (hh : h < (arenaAt past).size)
    (hb : KnownBinding past binding) (ha : ∀ arg ∈ args, Known past arg)
    (hr : ∀ target, binding ≠ .constant (.reference target)) :
    Follows s env past Known (invokeWithin s left ev forwards name binding args h) := by
  have hplain : ∀ {v : Value}, Known past v → Follows s env past Known
      (if args.isEmpty then Pure.pure v else quiet (throw
        (.arity { expected := 0, actual := args.length, name := some name }))) := by
    intro v hv
    split_ifs
    · exact .pure hv
    · exact .throw (by simp)
  rcases binding with b | v
  · cases forwards <;> exact follows_apply b hh ha
  · cases v with
    | lambda params body captured =>
        intro w hl
        have hp : s.frameParent captured h < (arenaAt past).size := frameParent_live hl hb hh
        cases forwards <;> exact follows_callLambda hev name params body hp ha w hl
    | reference target => exact absurd rfl (hr target)
    | _ => cases forwards <;> exact hplain hb

/-- Invoking a binding, through any number of references. -/
lemma follows_invokeWithin (hev : Faithful s ev) :
    ∀ (forwards : Nat) {name : String} {binding : Binding} {args : List Value}
      {past : List Moment} {h : Handle}, h < (arenaAt past).size → KnownBinding past binding →
      (∀ arg ∈ args, Known past arg) →
      Follows s env past Known (invokeWithin s left ev forwards name binding args h) := by
  intro forwards
  induction forwards with
  | zero =>
      intro name binding args past h hh hb ha
      by_cases hr : ∃ target, binding = .constant (.reference target)
      · obtain ⟨target, rfl⟩ := hr
        exact .throw (by simp)
      · exact follows_invoke_direct hev 0 name hh hb ha fun target ht => hr ⟨target, ht⟩
  | succ forwards ih =>
      intro name binding args past h hh hb ha
      by_cases hr : ∃ target, binding = .constant (.reference target)
      · obtain ⟨target, rfl⟩ := hr
        refine (follows_lookup target hh).bind fun now found hp hfound => ?_
        cases found with
        | none => exact .throw (by simp)
        | some binding =>
            by_cases ht : target = name
            · simp only [ht, if_true]
              exact .throw (by simp)
            · simp only [ht, if_false]
              exact ih (hp.live hh) (hfound binding rfl) fun arg harg =>
                (ha arg harg).mono hp.isPrefix
      · exact follows_invoke_direct hev _ name hh hb ha fun target ht => hr ⟨target, ht⟩

lemma follows_log (tracer : Tracer) (message : Unit → String) :
    Follows s env past (fun _ _ => True) (quiet (Run.log tracer message)) :=
  .quiet (P := fun _ => True) (Quiet.log tracer message message) fun _ _ => trivial

lemma known_unit : Known past .unit := known_of_closures_eq_nil (by simp)

lemma follows_evaluateIf (hev : Faithful s ev) (args : List Node)
    (he : env < (arenaAt past).size) : Follows s env past Known (evaluateIf ev args env) := by
  match args with
  | [test, consequent, alternative] =>
      refine (hev past test env he).bind fun now value hp _ => ?_
      split_ifs
      · exact hev now consequent env (hp.live he)
      · exact hev now alternative env (hp.live he)
  | [] => exact .throw (by simp)
  | [_] => exact .throw (by simp)
  | [_, _] => exact .throw (by simp)
  | _ :: _ :: _ :: _ :: _ => exact .throw (by simp)

lemma follows_evaluateDefine (hev : Faithful s ev) (args : List Node)
    (he : env < (arenaAt past).size) : Follows s env past Known (evaluateDefine ev args env) := by
  match args with
  | [] => exact .throw (by simp)
  | [node] => cases node <;> exact .throw (by simp)
  | .symbol name :: expr :: _ =>
      refine (hev past expr env he).bind fun now value hp hv => ?_
      refine (follows_log _ _).bind fun later _ hp' _ => ?_
      refine (follows_define name (hp'.live (hp.live he)) (hv.mono hp'.isPrefix)).bind
        fun _ _ _ _ => ?_
      exact .pure known_unit
  | .list _ :: _ :: _ => exact .pure known_unit
  | .literal _ :: _ :: _ => exact .pure known_unit

lemma follows_evaluateLambda (args : List Node) (he : env < (arenaAt past).size) :
    Follows s env past Known (evaluateLambda s args env) := by
  match args with
  | [] => exact .throw (by simp)
  | .list params :: body =>
      simp only [evaluateLambda]
      cases paramNames params with
      | error fault => exact .throw (by simp)
      | ok names => exact follows_makeLambda names body he
  | .symbol _ :: _ => exact .throw (by simp)
  | .literal _ :: _ => exact .throw (by simp)

lemma follows_stringArgument (hev : Faithful s ev) (form : String) (args : List Node)
    (he : env < (arenaAt past).size) :
    Follows s env past (fun _ _ => True) (stringArgument ev form args env) := by
  match args with
  | [arg] =>
      refine (hev past arg env he).bind fun now value _ _ => ?_
      cases value with
      | string text => exact .pure trivial
      | _ => exact .throw (by simp)
  | [] => exact .throw (by simp)
  | _ :: _ :: _ => exact .throw (by simp)

lemma follows_evaluateForm (hev : Faithful s ev) (form : SpecialForm) (args : List Node)
    (he : env < (arenaAt past).size) :
    Follows s env past Known (evaluateForm s ev form args env) := by
  cases form with
  | conditional => exact follows_evaluateIf hev args he
  | define => exact follows_evaluateDefine hev args he
  | lambda => exact follows_evaluateLambda args he
  | sequence =>
      cases args with
      | nil => exact .throw (by simp)
      | cons node rest => exact follows_evaluateBody hev (node :: rest) he known_unit
  | eval =>
      refine (follows_stringArgument hev "eval" args he).bind fun now source hp _ => ?_
      exact follows_runWith hev source (hp.live he)
  | inclusion =>
      refine (follows_stringArgument hev "include" args he).bind fun now path hp _ => ?_
      refine (follows_log _ _).bind fun now₂ _ hp₂ _ => ?_
      refine Follows.bind (R := fun _ _ => True)
        (.quiet (P := fun _ => True) (Quiet.readSource path) fun _ _ => trivial)
        fun now₃ source hp₃ _ => ?_
      refine (follows_runWith hev source (hp₃.live (hp₂.live (hp.live he)))).bind fun _ _ _ _ => ?_
      exact .pure known_unit

lemma follows_evaluateCall (hev : Faithful s ev) (name : String) (args : List Node)
    (he : env < (arenaAt past).size) :
    Follows s env past Known (evaluateCall s left ev name args env) := by
  refine (follows_evaluateAll hev args he).bind fun now values hp hvs => ?_
  refine (follows_lookup name (hp.live he)).bind fun now₂ found hp₂ hfound => ?_
  cases found with
  | none => exact .throw (by simp)
  | some binding =>
      refine (follows_log _ _).bind fun now₃ _ hp₃ _ => ?_
      have hlive := hp₃.live (hp₂.live (hp.live he))
      refine follows_invokeWithin hev s.stack.forwards hlive ?_ ?_
      · exact fun c hc => (hfound binding rfl c hc).mono hp₃.isPrefix
      · exact fun arg harg => (hvs arg harg).mono (hp₂.isPrefix.trans hp₃.isPrefix)

lemma follows_evaluateNode (hev : Faithful s ev) : Faithful s (evaluateNode s left ev) := by
  intro past node env he
  match node with
  | .literal value => exact .pure (known_of_closures_eq_nil (by simp))
  | .symbol name =>
      refine (follows_lookup name he).bind fun now found hp hfound => ?_
      cases found with
      | none => exact .throw (by simp)
      | some binding =>
          cases binding with
          | builtin b => exact .pure (known_of_closures_eq_nil (by simp))
          | constant value => exact .pure (hfound _ rfl)
  | .list [] => exact .pure known_unit
  | .list (.symbol name :: args) =>
      simp only [evaluateNode]
      cases s.form? name with
      | none => exact follows_evaluateCall hev name args he
      | some form =>
          refine (follows_log _ _).bind fun now _ hp _ => ?_
          exact follows_evaluateForm hev form args (hp.live he)
  | .list (.list _ :: _) => exact .throw (by simp)
  | .list (.literal _ :: _) => exact .throw (by simp)

/-- The value that a computation comes to is noted once its lambdas have been made. -/
lemma Follows.noted {x : Journal Value} (hx : Follows s env past Known x) :
    Follows s env past Known (noted x) := by
  intro w hl hw
  have h := hx w hl hw
  simp only [Journal.noted]
  generalize x.run w = r at h ⊢
  cases h with
  | @ok value w' moments hp hw' hv =>
      have hlegal : Legal (past ++ x.moments w ++ [⟨.evaluated value, w'.arena⟩]) :=
        hp.legal.next hv hw'
      refine .trans hp (.ok ⟨hlegal, List.prefix_append _ _, ?_⟩ ?_ (hv.mono ?_))
      · rw [arenaAt_concat, hw']
        exact .refl _
      · rw [arenaAt_concat]
      · exact List.prefix_append _ _
  | error hp hw' hf =>
      simp only [List.append_nil]
      exact .error hp hw' hf

/-- **The evaluator goes through allowed events only**, nested to any depth. -/
theorem follows_evaluateWith (s : Settings) (depth : Nat) : Faithful s (evaluateWith s depth) := by
  induction depth with
  | zero => exact fun _ _ _ _ => .throw (by simp)
  | succ depth ih =>
      intro past node env he
      exact (follows_evaluateNode ih past node env he).noted

end Journal

/-! ## Any sequence of runs -/

/-- What happened on one arena so far, and the world after it.  The arena starts with the library.
Sources are run in scopes that are live, one after the other, each under its own settings and with
its own bound on nesting, whether they end in values or in faults.  Between two runs scopes may be
opened below live ones, and anything outside of the arena may change. -/
inductive History : List Moment → World → Prop where
  | start {w : World} : w.arena = Arena.default → History [] w
  | outside {past : List Moment} {w w' : World} :
      History past w → w'.arena = w.arena → History past w'
  | child {past : List Moment} {w : World} (env : Handle) :
      History past w → env < w.arena.size →
      History (past ++ [⟨.opened env, (w.opened env).arena⟩]) (w.opened env)
  | run {past : List Moment} {w : World} (s : Settings) (depth : Nat) (source : String)
      (env : Handle) : History past w → env < w.arena.size →
      History (past ++ (Journal.runWith (Journal.evaluateWith s depth) source env).moments w)
        ((runWith (evaluateWith s reclaimFrame depth) source env).after w)

/-- A lambda that does not dangle at a point: it has been made; the scope it holds on to is live,
marked, and leads to the root; and no release since the lambda was made has touched that scope, so
that its index still stands for the scope the lambda form was evaluated in. -/
structure Lasts (past : List Moment) (c : Closure) : Prop where
  made : Made past c
  live : c.scope < (arenaAt past).size
  held : (arenaAt past).Holds c.scope
  anchored : (arenaAt past).Anchored c.scope
  kept : ∀ before m after, past = before ++ m :: after → m.event = .made c →
    ∀ m' ∈ after, ∀ frame, m'.event = .released frame → c.scope < frame

/-- After allowed events, every lambda that has been made lasts. -/
lemma Legal.lasts (h : Legal past) {c : Closure} (hc : Made past c) : Lasts past c where
  made := hc
  live := (h.sound.held c hc).lt_size
  held := h.sound.held c hc
  anchored := h.sound.rooted.anchored (h.sound.held c hc).lt_size
  kept := by
    rintro before m after rfl hm m' hm' frame hframe
    -- when the frame was released the lambda had been made, so that its scope was held
    obtain ⟨between, rest, rfl⟩ := List.append_of_mem hm'
    have hsplit : before ++ m :: (between ++ m' :: rest) =
        (before ++ m :: between) ++ m' :: rest := by simp
    rw [hsplit] at h
    have hallowed : m'.event.Allowed (before ++ m :: between) := h.allowed
    rw [hframe] at hallowed
    exact hallowed.2 _ (h.of_append.sound.held c ⟨m, by simp, hm⟩)

/-- A source run after allowed events: they go on with allowed ones. -/
lemma Journal.ends_run (s : Settings) (depth : Nat) (source : String) {env : Handle} {w : World}
    (hl : Legal past) (hw : w.arena = arenaAt past) (he : env < w.arena.size) :
    Ends s env past Known
      (ArenaLisp.runWith (ArenaLisp.evaluateWith s reclaimFrame depth) source env w)
      ((runWith (evaluateWith s depth) source env).moments w) := by
  have h := follows_runWith (follows_evaluateWith s depth) source (hw ▸ he) w hl hw
  rwa [run_runWith, plain_evaluateWith] at h

lemma History.legal {w : World} (h : History past w) : Legal past ∧ w.arena = arenaAt past := by
  induction h with
  | start hw => exact ⟨.start, hw.trans arenaAt_nil.symm⟩
  | outside _ hw ih => exact ⟨ih.1, hw.trans ih.2⟩
  | @child past w env _ he ih =>
      obtain ⟨hl, hw⟩ := ih
      have harena : (w.opened env).arena = (arenaAt past).child env := by
        rw [World.opened_arena, hw]
      have hlive : env < (arenaAt past).size := hw ▸ he
      exact ⟨hl.next hlive harena, by rw [arenaAt_concat]⟩
  | run s depth source env _ he ih =>
      have hends := Journal.ends_run s depth source ih.1 ih.2 he
      unfold Run.after
      generalize runWith (evaluateWith s reclaimFrame depth) source env _ = r at hends ⊢
      cases hends with
      | ok hp hw' _ => exact ⟨hp.legal, hw'⟩
      | error hp hw' _ => exact ⟨hp.legal, hw'⟩

/-- **No lambda ever dangles.**  Whatever has been run on an arena, at every point of it every
lambda in a binding of the arena, and every lambda in a value that has come up so far, lasts.  The
next run comes to a value whose lambdas last, or to a fault that is not about a released scope: no
look-up and no binding of a name ever meets one. -/
theorem History.no_dangling_closure {w : World} (h : History past w) :
    w.arena = arenaAt past ∧
    (∀ before after, past = before ++ after →
      (arenaAt before).Binds (Lasts before) ∧
      ∀ m ∈ before, ∀ value, m.event = .evaluated value → ∀ c ∈ value.closures, Lasts before c) ∧
    ∀ s depth source env, env < w.arena.size →
      let run := runWith (evaluateWith s reclaimFrame depth) source env
      let moments := (Journal.runWith (Journal.evaluateWith s depth) source env).moments w
      (∀ value w', run w = .ok value w' → ∀ c ∈ value.closures, Lasts (past ++ moments) c) ∧
      ∀ w', run w ≠ .error (.stray .releasedScope) w' := by
  obtain ⟨hl, hw⟩ := h.legal
  refine ⟨hw, ?_, ?_⟩
  · rintro before after rfl
    have hbefore : Legal before := hl.of_append
    refine ⟨hbefore.sound.binds.mono fun c hc => hbefore.lasts hc, ?_⟩
    intro m hm value hvalue c hc
    -- the lambdas in a value had been made when the value came up
    obtain ⟨earlier, later, rfl⟩ := List.append_of_mem hm
    have hallowed := hbefore.allowed
    rw [hvalue] at hallowed
    exact hbefore.lasts ((hallowed c hc).mono (List.prefix_append _ _))
  · intro s depth source env he run moments
    have hends : Journal.Ends s env past Known (run w) moments :=
      Journal.ends_run s depth source hl hw he
    constructor
    · intro value w' hrun c hc
      rw [hrun] at hends
      cases hends with
      | ok hp _ hv => exact hp.legal.lasts (hv c hc)
    · intro w' hrun
      rw [hrun] at hends
      cases hends with
      | error _ _ hf => exact hf rfl

/-- A lambda made in a frame outlives the call: the frame, scope 1, is kept. -/
theorem History.no_dangling_closure_kept_frame :
    let s : Settings := { scoping := .lexical }
    let w : World := { arena := Arena.default }
    let source := "(define k (lambda (x) (lambda () x))) (define f (k 1))"
    let past := (Journal.runWith (Journal.evaluateWith s 10) source 0).moments w
    (past.filterMap fun m => match m.event with
      | .made c => some c.scope
      | _ => none) = [0, 1] ∧
    (arenaAt past).Binds (Lasts past) := by
  intro s w source past
  have h : History past _ :=
    .run s 10 source 0 (.start (w := w) rfl) Arena.rooted_default.size_pos
  exact ⟨by decide +kernel, (h.no_dangling_closure.2.1 past [] (List.append_nil _).symm).1⟩

end ArenaLisp
