import ArenaLisp.Proofs.Scripts
import ArenaLisp.Proofs.Spelling
import ArenaLisp.Proofs.Twins
import ArenaLisp.TestScript

/-!
# Tests do not see each other

The tests of a directory are run one after the other in one arena.  The scripts share the root
scope, their scopes and whatever lambdas hold on to stay in the arena, and a test is called by
reading its name as a source.  This file shows that nothing of this can be noticed: each test ends
as it does if its script is loaded on its own, in a fresh arena, and no other test is called.

A script that is loaded on its own and the same script among others are in twin worlds.  A test
changes no scope, so that the worlds are still twins when the next test is called, with the first of
them as it was before the test.

* `testNamesAlone`, `testAlone` — the tests of a script on its own, and one of them.
* `Twin.test`, `Twin.tests` — one test, and all tests of a script.
* `Ready.script`, `Ready.scripts` — one script, and all scripts of a directory.
* **`runTests_isolated`** — each test of a directory ends as it does alone.
-/

namespace ArenaLisp

/-! ## Tests on their own -/

/-- Loads a test script on its own: in a scope below a root that holds the library and the
assertions. -/
def loadAlone (s : Settings) (path : String) : Run Handle := do
  modify fun w => { w with arena := Arena.withAssertions }
  let scope ← Run.openScope 0 true
  let _ ← runFile s path scope
  return scope

/-- Calls a test of a script that is loaded on its own. -/
def testAlone (s : Settings) (path name : String) : Run TestOutcome := do
  let scope ← loadAlone s path
  runTest s path scope name

/-- The value that a computation comes to, if it does. -/
def Run.value? (x : Run α) (w : World) : Option α :=
  match x w with
  | .ok value _ => some value
  | .error _ _ => none

/-- The tests of a script that is loaded on its own: the names in its scope that start with `test-`,
in the order in which they were first bound. -/
def testNamesAlone (s : Settings) (path : String) (w : World) : List String :=
  let names : Run (List String) := do Run.localNames (← loadAlone s path)
  ((names.value? w).getD []).filter (Text.startsWith "test-")

/-- A computation comes to a value and leaves the standard input and the files as they are. -/
def Run.Harmless (x : Run α) (w : World) : Prop :=
  ∃ value w', x w = .ok value w' ∧ w'.input = w.input ∧ w'.files = w.files

instance (x : Run α) (w : World) : Decidable (x.Harmless w) :=
  match h : x w with
  | .ok _ w' =>
    decidable_of_iff (w'.input = w.input ∧ w'.files = w.files) (by simp [Run.Harmless, h])
  | .error _ _ => isFalse (by simp [Run.Harmless, h])

lemma Run.value?_of_ok {x : Run α} {w w' : World} {value : α} (h : x w = .ok value w') :
    x.value? w = some value := by
  rw [Run.value?, h]

/-! ## One test -/

/-- What is reported of a test whose call ends in a given way; a stray is not reported. -/
def testEnd (path name : String) :
    EStateM.Result Fault World Value → EStateM.Result Fault World TestOutcome
  | .ok _ w => .ok { path, name } w
  | .error fault w =>
    match fault.diagnostic? with
    | some d => .ok { path, name, failure := some d } w
    | none => .error fault w

lemma runTest_eq (s : Settings) (path : String) (env : Handle) (name : String) (w : World) :
    runTest s path env name w = testEnd path name (runSource s ("(" ++ name ++ ")") env w) := by
  cases hrun : runSource s ("(" ++ name ++ ")") env w with
  | ok value w' =>
      have hattempt : Run.attempt (runSource s ("(" ++ name ++ ")") env) w =
          .ok (.ok value) w' := by
        rw [Run.attempt, hrun]
      rw [runTest, bind_of_ok hattempt]
      rfl
  | error fault w' =>
      cases hd : fault.diagnostic? with
      | some d =>
          have hattempt : Run.attempt (runSource s ("(" ++ name ++ ")") env) w =
              .ok (.error d) w' := by
            simp only [Run.attempt, hrun, hd]
          rw [runTest, bind_of_ok hattempt]
          simp only [testEnd, hd]
          rfl
      | none =>
          have hattempt : Run.attempt (runSource s ("(" ++ name ++ ")") env) w =
              .error fault w' := by
            simp only [Run.attempt, hrun, hd]
          rw [runTest, bind_of_error hattempt]
          simp only [testEnd, hd]

/-- If something is reported, the stack has not run out. -/
lemma endsIn_of_testEnd {s : Settings} {P : Arena → Prop} {path name : String} {x : Run Value}
    {w w' : World} {outcome : TestOutcome} (hx : x.EndsIn s P w)
    (h : testEnd path name (x w) = .ok outcome w') : P w'.arena := by
  unfold Run.EndsIn at hx
  generalize x w = r at h hx
  cases r with
  | ok value w₁ =>
      cases h
      exact hx
  | error fault w₁ =>
      rcases hx with hx | ⟨rfl, -⟩
      · simp only [testEnd] at h
        split at h <;> cases h
        exact hx
      · cases h

/-- What is reported does not change the world. -/
lemma after_of_testEnd {path name : String} {x : Run Value} {w w' : World} {outcome : TestOutcome}
    (h : testEnd path name (x w) = .ok outcome w') : x.after w = w' := by
  unfold Run.after
  generalize x w = r at h ⊢
  cases r with
  | ok value w₁ =>
      cases h
      rfl
  | error fault w₁ =>
      simp only [testEnd] at h
      split at h <;> cases h
      rfl

/-- The same is reported of calls that end alike. -/
lemma EndAlike.testEnd {Q : World → World → Prop} {r r' : EStateM.Result Fault World Value}
    (h : EndAlike Q r r') {path name : String} {outcome : TestOutcome} {v : World}
    (hr : testEnd path name r = .ok outcome v) :
    ∃ u, ArenaLisp.testEnd path name r' = .ok outcome u ∧ Q v u := by
  cases h with
  | ok hq =>
      cases hr
      exact ⟨_, rfl, hq⟩
  | @error fault fault' _ u hd hq =>
      simp only [ArenaLisp.testEnd] at hr ⊢
      rw [hd]
      cases hf : fault.diagnostic? with
      | none =>
          rw [hf] at hr
          cases hr
      | some d =>
          rw [hf] at hr
          cases hr
          exact ⟨u, rfl, hq⟩

/-- No special form has the name of a test. -/
lemma Settings.form?_of_test (s : Settings) {name : String}
    (h : Text.startsWith "test-" name = true) : s.form? name = none := by
  unfold Settings.form?
  split
  case h_7 => rfl
  all_goals exact absurd h (by decide)

/-- A name that a test can have. -/
def IsTestName (name : String) : Prop :=
  (Node.symbol name).Readable ∧ Text.startsWith "test-" name = true

namespace Twin

variable {s : Settings} {path name : String} {h h' : Handle} {v u : World}

/-- **One test in twin worlds.**  The outcome is the same, and after it the second world is still a
twin of the first one as it was before. -/
lemma test (t : Twin h h' v u) (hname : IsTestName name)
    (hv : (runTest s path h name).Harmless v) :
    ∃ outcome u', (runTest s path h name).value? v = some outcome ∧
      runTest s path h' name u = .ok outcome u' ∧ Twin h h' v u' ∧
      u'.arena.scope? 0 = u.arena.scope? 0 := by
  obtain ⟨outcome, v₁, hrun, hinput, hfiles⟩ := hv
  have hend := hrun
  rw [runTest_eq] at hend
  obtain ⟨depth, hdepth⟩ : ∃ depth, s.stack.depth = depth + 1 := by
    refine Nat.exists_eq_succ_of_ne_zero fun hzero => ?_
    rw [runSource_call_of_empty hzero hname.1] at hend
    cases hend
  have hcall := runSource_call hdepth hname.1 (s.form?_of_test hname.2)
  have hp := uniform_call s depth name
  rw [hcall] at hend
  obtain ⟨u₁, hend', t₁⟩ := (t.run hp).testEnd hend
  have hv₁ : v.Alike v₁ := by
    refine ⟨?_, hinput, hfiles⟩
    rw [← after_of_testEnd hend]
    exact (hp.oblivious h).sameHost v
  -- a call changes no scope, so the first world can be put back to where it was
  have hs := endsIn_of_testEnd (spares_call s depth name h v) hend
  have hs' := endsIn_of_testEnd (spares_call s depth name h' u) hend'
  refine ⟨outcome, u₁, Run.value?_of_ok hrun, ?_, t.restore hs hv₁ t₁, ?_⟩
  · rw [runTest_eq, hcall]
    exact hend'
  · exact hs'.scopes 0 (Nat.zero_lt_of_lt t.right)

/-- **All tests of a script**, by induction on the tests: each one leaves the worlds twins. -/
lemma tests {names : List String} : ∀ {u : World}, Twin h h' v u →
    (∀ name ∈ names, IsTestName name) →
    (∀ name ∈ names, (runTest s path h name).Harmless v) →
    ∃ outcomes u', runTestNames s path h' names u = .ok outcomes u' ∧
      outcomes.map some = names.map (fun name => (runTest s path h name).value? v) ∧
      Twin h h' v u' ∧ u'.arena.scope? 0 = u.arena.scope? 0 := by
  induction names with
  | nil => exact fun {u} t _ _ => ⟨[], u, rfl, rfl, t, rfl⟩
  | cons name rest ih =>
      intro u t hnames hv
      obtain ⟨hname, hnames⟩ := List.forall_mem_cons.mp hnames
      obtain ⟨hfirst, hv⟩ := List.forall_mem_cons.mp hv
      obtain ⟨outcome, u₁, hvalue, hrun, t₁, hroot₁⟩ := t.test hname hfirst
      obtain ⟨outcomes, u₂, hrest, houtcomes, t₂, hroot₂⟩ := ih t₁ hnames hv
      refine ⟨outcome :: outcomes, u₂, ?_, ?_, t₂, hroot₂.trans hroot₁⟩
      · rw [runTestNames, bind_of_ok hrun, bind_of_ok hrest]
        rfl
      · rw [List.map_cons, List.map_cons, houtcomes, hvalue]

end Twin

/-! ## Loading a script -/

/-- A script file can be read wherever the files are the same. -/
lemma readSource_of_files {path source : String} {v v' u : World}
    (hv : readSource path v = .ok source v') (hfiles : u.files = v.files) :
    readSource path u = .ok source u := by
  obtain ⟨hnull, _, text, htext, rfl⟩ := readSource_ok hv
  rw [← hfiles] at htext
  exact readSource_of_readText hnull htext

/-- A file that can be run was read. -/
lemma runFile_ok {s : Settings} {path : String} {h : Handle} {v v' : World} {value : Value}
    (hrun : runFile s path h v = .ok value v') :
    ∃ source, readSource path v = .ok source v ∧ runSource s source h v = .ok value v' := by
  cases hread : readSource path v with
  | error fault v₁ =>
      rw [runFile, bind_of_error hread] at hrun
      cases hrun
  | ok source v₁ =>
      obtain ⟨_, rfl, _⟩ := readSource_ok hread
      rw [runFile, bind_of_ok hread] at hrun
      exact ⟨source, rfl, hrun⟩

/-- A script that is run in twin worlds. -/
lemma Twin.runFile {s : Settings} {path : String} {h h' : Handle} {v v' u : World} {value : Value}
    (t : Twin h h' v u) (hrun : runFile s path h v = .ok value v') :
    ∃ value' u', ArenaLisp.runFile s path h' u = .ok value' u' ∧ Twin h h' v' u' ∧
      Frame s h' u.arena u'.arena := by
  obtain ⟨source, hread, hsource⟩ := runFile_ok hrun
  have hp := uniform_runWith s s.stack.depth source
  have hend : EndAlike (Twin h h') (runSource s source h v) (runSource s source h' u) := t.run hp
  have hframe : (runSource s source h').EndsIn s (Frame s h' u.arena) u := hp.frame h' u
  rw [ArenaLisp.runFile, bind_of_ok (readSource_of_files hread t.alike.files)]
  rw [hsource] at hend
  unfold Run.EndsIn at hframe
  generalize runSource s source h' u = r at hend hframe ⊢
  cases hend with
  | ok t' => exact ⟨_, _, rfl, t', hframe⟩

/-! ## The arena that test scripts start with -/

namespace Arena

/-- At the start the root scope holds no lambda. -/
lemma entries_withAssertions : withAssertions.Entries fun i entry =>
    i = 0 ∧ ∀ v, entry.2 = .constant v → v.callables = [] := by
  refine Entries.register (fun b _ => ⟨rfl, by simp⟩) (entries_default.mono ?_)
  rintro i _ ⟨rfl, rfl | ⟨b, -, rfl⟩⟩
  · refine ⟨rfl, ?_⟩
    rintro v ⟨⟩
    exact Value.callables_float _
  · exact ⟨rfl, by simp⟩

lemma rooted_withAssertions : withAssertions.Rooted := rooted_default.register _ 0

lemma size_withAssertions : withAssertions.size = 1 := by
  have hregister : ∀ (bs : List Builtin) (a : Arena), (a.register 0 bs).size = a.size := by
    intro bs
    induction bs with
    | nil => exact fun _ => rfl
    | cons b rest ih => exact fun a => (ih _).trans (size_update _ _ _)
  rw [withAssertions, default, hregister, hregister]
  exact size_update _ _ _

lemma binds_withAssertions (P : Closure → Prop) : withAssertions.Binds P := by
  refine Binds.entries_iff.mpr (entries_withAssertions.mono ?_)
  rintro i ⟨name, b | v⟩ ⟨-, hv⟩ c hc
  · simp [Binding.closures] at hc
  · simp [Binding.closures, Value.closures_eq_callables, hv v rfl] at hc

lemma spelled_withAssertions : withAssertions.Spelled where
  distinct := (Distinct.fresh.insert 0 _ _).register 0 _ |>.register 0 _
  entries := by
    refine entries_withAssertions.mono fun i entry he => ⟨fun hi => absurd he.1 hi, ?_⟩
    intro v hv
    simp [Value.Readable, he.2 v hv]

end Arena

/-! ## One script -/

/-- A world in which the next test script can be run: its streams and files are those of the world
in which the tests were started, and its root scope is the one at the start. -/
structure Ready (w u : World) : Prop where
  alike : w.Alike u
  rooted : u.arena.Rooted
  binds : u.arena.Binds (u.arena.Holds ·.scope)
  root : u.arena.scope? 0 = Arena.withAssertions.scope? 0

/-- The world in which a script on its own is run. -/
def World.testStart (w : World) : World := { w with arena := Arena.withAssertions }.opened 0

lemma World.testStart_arena (w : World) : w.testStart.arena = Arena.withAssertions.child 0 := by
  rw [World.testStart, World.opened_arena]

lemma Mirrors.of_root {a : Arena} (hroot : a.scope? 0 = Arena.withAssertions.scope? 0) :
    Mirrors id Arena.withAssertions a where
  rooted := Arena.rooted_withAssertions
  binds := Arena.binds_withAssertions _
  mono _ _ hij _ := hij
  scope i hi := by
    rw [Arena.size_withAssertions] at hi
    obtain rfl : i = 0 := by omega
    rw [id, hroot]
    cases Arena.withAssertions.scope? 0 with
    | none => rfl
    | some sc => rw [Option.map_some, sc.rename_id]

lemma Mirrors.refl {a : Arena} (hr : a.Rooted) (hb : a.Binds (a.Holds ·.scope)) :
    Mirrors id a a where
  rooted := hr
  binds := hb
  mono _ _ hij _ := hij
  scope i _ := by
    cases hs : a.scope? i with
    | none => rw [id, hs]; rfl
    | some sc => rw [id, hs, Option.map_some, sc.rename_id]

lemma World.Alike.opened {w u : World} (h : w.Alike u) (p p' : Handle) :
    (w.opened p).Alike (u.opened p') := by
  unfold World.opened World.trace
  split_ifs <;> exact ⟨⟨h.environ, h.platform⟩, h.input, h.files⟩

lemma World.Alike.testStart {w u : World} (h : w.Alike u) : w.testStart.Alike (u.opened 0) :=
  opened (w := { w with arena := Arena.withAssertions })
    ⟨⟨h.environ, h.platform⟩, h.input, h.files⟩ 0 0

/-- A script on its own and a script among others start in twin worlds. -/
lemma Ready.twin {w u : World} (hr : Ready w u) :
    Twin 1 u.arena.size w.testStart (u.opened 0) := by
  have hleft := (Mirrors.of_root hr.root).child Arena.rooted_withAssertions.size_pos
  have hright := (Mirrors.refl hr.rooted hr.binds).child hr.rooted.size_pos
  rw [← World.testStart_arena w] at hleft
  rw [← World.opened_arena u] at hright
  refine ⟨hr.alike.testStart, ?_, ?_, _, _, u.arena.child 0, hleft, hright, ?_⟩
  · rw [World.testStart_arena, Arena.size_child, Arena.size_withAssertions]
    exact Nat.one_lt_two
  · rw [World.opened_arena, Arena.size_child]
    exact Nat.lt_succ_self _
  · rw [Arena.size_withAssertions, Function.update_self, Function.update_self]

lemma Run.modify_bind (f : World → World) (g : PUnit → Run α) (w : World) :
    (modify f >>= g : Run α) w = g ⟨⟩ (f w) := rfl

lemma Run.openScope_of_size {w : World} {n : Nat} (hn : w.arena.size = n) (h : Handle) :
    Run.openScope h true w = .ok n (w.opened h) := by
  rw [← hn]
  rfl

lemma Run.localNames_of_ok {h : Handle} {w : World} {names : List String}
    (hnames : w.arena.localNames h = .ok names) : Run.localNames h w = .ok names w := by
  show Run.ofExcept ((w.arena.localNames h).mapError .stray) w = _
  rw [hnames]
  rfl

/-- A script that was loaded on its own: the run of it, and what it left behind. -/
structure Loaded (s : Settings) (path : String) (w v : World) : Prop where
  load : loadAlone s path w = .ok 1 v
  run : ∃ value, runFile s path 1 w.testStart = .ok value v
  alike : w.Alike v
  live : 1 < v.arena.size
  spelled : v.arena.Spelled

lemma Run.Harmless.loaded {s : Settings} {path : String} {w : World}
    (h : (loadAlone s path).Harmless w) : ∃ v, Loaded s path w v := by
  obtain ⟨scope, v, hload, hinput, hfiles⟩ := h
  have hopen : Run.openScope 0 true { w with arena := Arena.withAssertions } = .ok 1 w.testStart :=
    Run.openScope_of_size (w := { w with arena := Arena.withAssertions })
      Arena.size_withAssertions 0
  have hstart : loadAlone s path w =
      (do let _ ← runFile s path 1; return 1 : Run Handle) w.testStart := by
    rw [loadAlone, Run.modify_bind, bind_of_ok hopen]
  cases hrun : runFile s path 1 w.testStart with
  | error fault v' =>
      rw [hstart, bind_of_error hrun] at hload
      cases hload
  | ok value v' =>
      rw [hstart, bind_of_ok hrun] at hload
      cases hload
      obtain ⟨source, _, hsource⟩ := runFile_ok hrun
      replace hsource : runWith (evaluateWith s reclaimFrame s.stack.depth) source 1 w.testStart =
        .ok value v := hsource
      have hp := uniform_runWith s s.stack.depth source
      have hhost := (hp.oblivious 1).sameHost w.testStart
      have hframe := hp.frame 1 w.testStart
      have hends := Discipline.spelled_laws.ends_run s s.stack.depth source 1
        (w.testStart_arena ▸ Arena.spelled_withAssertions.child 0) fun _ _ _ _ => trivial
      simp only [Run.after, Run.EndsIn, hsource] at hhost hframe hends
      have hsize := hframe.size_le
      obtain ⟨_, hspelled, _⟩ := hends
      rw [World.testStart_arena, Arena.size_child, Arena.size_withAssertions] at hsize
      have hopened : w.SameHost w.testStart :=
        ((World.SameHost.refl w).withArena _).trans (World.sameHost_opened _ 0)
      refine ⟨v, ?_, ⟨value, hrun⟩, ⟨hopened.trans hhost, hinput, hfiles⟩, hsize, hspelled⟩
      rw [hstart, bind_of_ok hrun]
      rfl

namespace Loaded

variable {s : Settings} {path : String} {w v : World}

/-- The tests of a script that was loaded, and what their names are like. -/
lemma testNames (l : Loaded s path w v) :
    ∃ names, v.arena.localNames 1 = .ok names ∧
      testNamesAlone s path w = names.filter (Text.startsWith "test-") ∧
      (testNamesAlone s path w).Nodup ∧ ∀ name ∈ testNamesAlone s path w, IsTestName name := by
  obtain ⟨sc, hs⟩ := Arena.exists_scope l.live
  have hnames : v.arena.localNames 1 = .ok sc.names := by rw [Arena.localNames, hs]
  have heq : testNamesAlone s path w = sc.names.filter (Text.startsWith "test-") := by
    have hlocal := (bind_of_ok l.load).trans (Run.localNames_of_ok hnames)
    rw [testNamesAlone, Run.value?_of_ok hlocal, Option.getD_some]
  obtain ⟨hnodup, hreadable⟩ := l.spelled.localNames Nat.one_ne_zero hnames
  refine ⟨sc.names, hnames, heq, ?_⟩
  rw [heq]
  refine ⟨hnodup.filter _, fun name hn => ?_⟩
  obtain ⟨hmem, htest⟩ := List.mem_filter.mp hn
  exact ⟨hreadable name hmem, htest⟩

lemma testAlone_eq (l : Loaded s path w v) (name : String) :
    testAlone s path name w = runTest s path 1 name v :=
  bind_of_ok l.load

lemma harmless_runTest (l : Loaded s path w v) {name : String}
    (h : (testAlone s path name).Harmless w) : (runTest s path 1 name).Harmless v := by
  obtain ⟨outcome, v', hrun, hinput, hfiles⟩ := h
  rw [l.testAlone_eq] at hrun
  exact ⟨outcome, v', hrun, hinput.trans l.alike.input.symm, hfiles.trans l.alike.files.symm⟩

end Loaded

/-- The outcomes of the tests of a script, each called on its own. -/
def outcomesAlone (s : Settings) (w : World) (path : String) : List (Option TestOutcome) :=
  (testNamesAlone s path w).map fun name => (testAlone s path name).value? w

namespace Ready

variable {s : Settings} {w : World}

/-- **One script among others.**  Its tests end as they do alone, and the next script can be run. -/
lemma script {path : String} {u : World} (hr : Ready w u) (hload : (loadAlone s path).Harmless w)
    (htests : ∀ name ∈ testNamesAlone s path w, (testAlone s path name).Harmless w) :
    ∃ outcomes u', runTestScript s 0 path u = .ok outcomes u' ∧
      outcomes.map some = outcomesAlone s w path ∧ Ready w u' := by
  obtain ⟨v, l⟩ := hload.loaded
  obtain ⟨value, hrun⟩ := l.run
  obtain ⟨value', u₁, hrun', t₁, hframe⟩ := hr.twin.runFile hrun
  obtain ⟨names, hnames, heq, -, htestNames⟩ := l.testNames
  obtain ⟨outcomes, u₂, hrun₂, houtcomes, t₂, hroot₂⟩ := t₁.tests htestNames
    fun name hn => l.harmless_runTest (htests name hn)
  have hlocal := Run.localNames_of_ok (t₁.localNames.trans hnames)
  refine ⟨outcomes, u₂, ?_, ?_, ?_⟩
  · rw [runTestScript, bind_of_ok (Run.openScope_of_size rfl 0), bind_of_ok hrun',
      bind_of_ok hlocal, ← heq]
    exact hrun₂
  · rw [houtcomes, outcomesAlone]
    refine List.map_congr_left fun name _ => ?_
    rw [Run.value?, Run.value?, l.testAlone_eq]
  · -- neither the script nor its tests bind a name in the root scope
    obtain ⟨_, _, _, _, hmirrors, _⟩ := t₂.copies
    have hpos := hr.rooted.size_pos
    have hroot₁ := hframe.others 0 (by rw [World.opened_arena, Arena.size_child]; omega) (by omega)
    rw [World.opened_arena, Arena.scope?_child_of_lt hpos, hr.root] at hroot₁
    exact ⟨l.alike.trans t₂.alike, hmirrors.rooted, hmirrors.binds, hroot₂.trans hroot₁⟩

/-- **All scripts of a directory**, by induction on the scripts. -/
lemma scripts {paths : List String} : ∀ {u : World}, Ready w u →
    (∀ path ∈ paths, (loadAlone s path).Harmless w) →
    (∀ path ∈ paths, ∀ name ∈ testNamesAlone s path w, (testAlone s path name).Harmless w) →
    ∃ outcomes u', runTestScripts s 0 paths u = .ok outcomes u' ∧
      outcomes.map some = paths.flatMap (outcomesAlone s w) := by
  induction paths with
  | nil => exact fun {u} _ _ _ => ⟨[], u, rfl, rfl⟩
  | cons path rest ih =>
      intro u hr hloads htests
      obtain ⟨hload, hloads⟩ := List.forall_mem_cons.mp hloads
      obtain ⟨htest, htests⟩ := List.forall_mem_cons.mp htests
      obtain ⟨outcomes, u₁, hrun, houtcomes, hr₁⟩ := hr.script hload htest
      obtain ⟨others, u₂, hrest, hothers⟩ := ih hr₁ hloads htests
      refine ⟨outcomes ++ others, u₂, ?_, ?_⟩
      · rw [runTestScripts, bind_of_ok hrun, bind_of_ok hrest]
        rfl
      · rw [List.map_append, houtcomes, hothers, List.flatMap_cons]

end Ready

lemma ready_withAssertions (w : World) : Ready w { w with arena := Arena.withAssertions } where
  alike := ⟨⟨rfl, rfl⟩, rfl, rfl⟩
  rooted := Arena.rooted_withAssertions
  binds := Arena.binds_withAssertions _
  root := rfl

/-- **Tests do not see each other.**  Suppose that each test script of a directory, loaded on its
own, comes to a value, and that each of its tests, called alone, comes to a value or to an error of
the language, all without using up standard input or changing a file.  Then the tests of the
directory come to as many outcomes, in the order of the scripts and of the names in them, and each
outcome is the one of the test on its own.  No name is called twice. -/
theorem runTests_isolated (s : Settings) (directory : String) (w : World) {paths : List String}
    (hpaths : findTestScripts w.files directory = .ok paths)
    (hloads : ∀ path ∈ paths, (loadAlone s path).Harmless w)
    (htests : ∀ path ∈ paths, ∀ name ∈ testNamesAlone s path w,
      (testAlone s path name).Harmless w) :
    (∃ outcomes w', runTests s directory w = .ok outcomes w' ∧
      outcomes.map some = paths.flatMap fun path =>
        (testNamesAlone s path w).map fun name => (testAlone s path name).value? w) ∧
    ∀ path ∈ paths, (testNamesAlone s path w).Nodup := by
  constructor
  · obtain ⟨outcomes, w', hrun, houtcomes⟩ := (ready_withAssertions w).scripts hloads htests
    refine ⟨outcomes, w', ?_, houtcomes⟩
    rw [runTests, Run.modify_bind]
    show (Run.ofExcept (findTestScripts w.files directory) >>= runTestScripts s 0) _ = _
    rw [hpaths]
    exact hrun
  · intro path hp
    obtain ⟨v, l⟩ := (hloads path hp).loaded
    obtain ⟨_, _, _, hnodup, _⟩ := l.testNames
    exact hnodup

/-- A test that binds `x` again does not reach the next one, and a script that binds `x` does not
reach the next script. -/
theorem runTests_isolated_pair :
    let s : Settings := { scoping := .lexical }
    let first :=
      "(define x 1) (define test-a (lambda () (define x 0))) (define test-b (lambda () (assert x)))"
    let second := "(define test-b (lambda () (assert x)))"
    let w : World := { files := { entries := [(["t"], .directory),
      (["t", "a-test.lisp"], .file first.toUTF8.toList),
      (["t", "b-test.lisp"], .file second.toUTF8.toList)] } }
    let paths := ["t/a-test.lisp", "t/b-test.lisp"]
    (findTestScripts w.files "t" = .ok paths ∧
      (∀ path ∈ paths, (loadAlone s path).Harmless w) ∧
      ∀ path ∈ paths, ∀ name ∈ testNamesAlone s path w, (testAlone s path name).Harmless w) ∧
    ∃ outcomes w', runTests s "t" w = .ok outcomes w' ∧
      outcomes.map TestOutcome.passed = [true, true, false] := by
  intro s first second w paths
  have hpaths : findTestScripts w.files "t" = .ok paths := by
    have hsorted : Text.sorted paths = paths := List.mergeSort_of_pairwise (by decide +kernel)
    rw [← hsorted]
    rfl
  obtain ⟨hloads, htests, hpassed⟩ : (∀ path ∈ paths, (loadAlone s path).Harmless w) ∧
      (∀ path ∈ paths, ∀ name ∈ testNamesAlone s path w, (testAlone s path name).Harmless w) ∧
      (paths.flatMap fun path => (testNamesAlone s path w).map fun name =>
        (testAlone s path name).value? w).map (Option.map TestOutcome.passed) =
          [some true, some true, some false] := by
    decide +kernel
  refine ⟨⟨hpaths, hloads, htests⟩, ?_⟩
  obtain ⟨⟨outcomes, w', hrun, houtcomes⟩, _⟩ := runTests_isolated s "t" w hpaths hloads htests
  refine ⟨outcomes, w', hrun, ?_⟩
  rw [← houtcomes, List.map_map] at hpassed
  simpa using congrArg (List.filterMap id) hpassed

end ArenaLisp
