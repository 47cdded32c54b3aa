import ArenaLisp.Proofs.Frame
import ArenaLisp.Proofs.Readiness
import ArenaLisp.Proofs.Scripts

/-!
# Sources are run once

A session runs its sources one by one, and the first that fails ends the run.  On the command line
each source leaves the queue when it has been tried, whether it succeeded or failed, so that later
runs go on behind it.  This file keeps a record of the sources that are tried, in order, with what
came of them, and shows that the record and the queue together are what was queued: nothing is lost
and nothing is tried twice.

* `Trial`, `Tried` — sources that were tried, each in the world that the one before it left behind.
* `Console.Ran` — what a run of some sources can come to.
* **`Console.ran_runAll`** — runs try the sources in order, up to the first that fails.
* `Demand`, `Console.serve` — what can be asked of a session.
* `Console.Served`, `Console.Serves` — what a demand does, and what several do.
* **`Console.serves_exactly_once`** — every source that is queued is tried once, in its turn.
-/

namespace ArenaLisp

/-! ## Trials -/

/-- A source that was tried, with the number of its first line and what came of it. -/
structure Trial where
  line : Int
  source : String
  outcome : EStateM.Result Fault World Value

namespace Trial

/-- The entry that a queue has for a source. -/
def entry (t : Trial) : Int × String := (t.line, t.source)

/-- The value of a source that succeeded. -/
def value? (t : Trial) : Option Value :=
  match t.outcome with
  | .ok value _ => some value
  | .error _ _ => none

end Trial

/-- From one world to another, sources were tried one after the other: each was run in the world
that was left behind by the one before it. -/
inductive Tried (s : Settings) (env : Handle) : World → List Trial → World → Prop where
  | nil (w : World) : Tried s env w [] w
  | cons {w w' : World} {trials : List Trial} (line : Int) (source : String) :
      Tried s env ((runSource s source env).after w) trials w' →
      Tried s env w (⟨line, source, runSource s source env w⟩ :: trials) w'

/-- A session after a source was tried.  Its value, if any, is the latest result; and on the command
line it is no longer queued. -/
def Session.note (s : Session) (t : Trial) : Session :=
  { s with
    queue := if s.interactive then Ordered.erase t.line s.queue else s.queue
    results := s.results ++ t.value?.toList }

/-- How a console comes through a run of some sources, and what was tried: all of them, each with
success, or those up to the first that failed.  A source that failed stands in the report. -/
inductive Console.Ran (c : Console) (entries : List (Int × String)) :
    List Trial → EStateM.Result Fault Console Unit → Prop where
  | finished {trials : List Trial} {c' : Console} :
      entries = trials.map Trial.entry → (∀ t ∈ trials, t.value?.isSome) →
      Tried c.session.settings c.session.env c.world trials c'.world →
      c'.session = trials.foldl Session.note c.session →
      (c'.report = c.report ∨ c'.report = c.report.registerFile c.session.path) →
      Ran c entries trials (.ok () c')
  | raised {trials : List Trial} {failing : Trial} {rest : List (Int × String)} {fault : Fault}
      {c' : Console} :
      entries = trials.map Trial.entry ++ failing.entry :: rest → (∀ t ∈ trials, t.value?.isSome) →
      failing.outcome = .error fault c'.world →
      Tried c.session.settings c.session.env c.world (trials ++ [failing]) c'.world →
      c'.session = (trials ++ [failing]).foldl Session.note c.session →
      c'.report = c.report.registerLine c.session.path failing.source failing.line →
      Ran c entries (trials ++ [failing]) (.error fault c')

namespace Console

variable {c : Console}

/-- A source that succeeds. -/
lemma runOne_of_ok (line : Int) {source : String} {value : Value} {w : World}
    (h : runSource c.session.settings source c.session.env c.world = .ok value w) :
    runOne line source c = .ok ()
      { world := w
        report := c.report.registerFile c.session.path
        session := c.session.note ⟨line, source, .ok value w⟩ } := by
  obtain ⟨world, report, path, interactive, env, settings, queue, results⟩ := c
  simp only at h
  cases interactive <;>
    simp [runOne, onWorld, h, dequeue, changeSession, Session.note, Trial.value?,
      Report.removeLine_registerLine]

/-- A source that fails. -/
lemma runOne_of_error (line : Int) {source : String} {fault : Fault} {w : World}
    (h : runSource c.session.settings source c.session.env c.world = .error fault w) :
    runOne line source c = .error fault
      { world := w
        report := c.report.registerLine c.session.path source line
        session := c.session.note ⟨line, source, .error fault w⟩ } := by
  obtain ⟨world, report, path, interactive, env, settings, queue, results⟩ := c
  simp only at h
  cases interactive <;>
    simp [runOne, onWorld, h, dequeue, changeSession, Session.note, Trial.value?]

/-- A source that succeeds is tried before those behind it. -/
lemma Ran.cons {line : Int} {source : String} {value : Value} {w : World}
    {rest : List (Int × String)} {trials : List Trial} {r : EStateM.Result Fault Console Unit}
    (hrun : runSource c.session.settings source c.session.env c.world = .ok value w)
    (h : Ran { world := w
               report := c.report.registerFile c.session.path
               session := c.session.note ⟨line, source, .ok value w⟩ } rest trials r) :
    c.Ran ((line, source) :: rest) (⟨line, source, .ok value w⟩ :: trials) r := by
  have htrials : ∀ {later : List Trial} {w' : World},
      Tried c.session.settings c.session.env w later w' →
      Tried c.session.settings c.session.env c.world (⟨line, source, .ok value w⟩ :: later) w' := by
    intro later w' hlater
    have hw : (runSource c.session.settings source c.session.env).after c.world = w := by
      rw [Run.after, hrun]
    rw [← hrun]
    exact .cons line source (hw ▸ hlater)
  cases h with
  | finished hentries hall htried hsession hreport =>
      refine .finished ?_ (List.forall_mem_cons.mpr ⟨rfl, hall⟩) (htrials htried) hsession ?_
      · rw [List.map_cons, hentries]
        rfl
      · right
        rcases hreport with hreport | hreport
        · exact hreport
        · simpa [Session.note, Report.registerFile, Ordered.put_put] using hreport
  | @raised trials failing later fault c' hentries hall hfailing htried hsession hreport =>
      have hline : (line, source) :: rest =
          (⟨line, source, .ok value w⟩ :: trials : List Trial).map Trial.entry ++
            failing.entry :: later := by
        rw [List.map_cons, List.cons_append, hentries]
        rfl
      rw [← List.cons_append]
      refine .raised hline (List.forall_mem_cons.mpr ⟨rfl, hall⟩) hfailing (htrials htried)
        hsession ?_
      simpa [Session.note, Report.registerFile, Report.registerLine, Ordered.put_put] using hreport

/-- **Sources are tried in order**, up to the first that fails. -/
theorem ran_runAll : ∀ (entries : List (Int × String)) (c : Console),
    ∃ trials, c.Ran entries trials (runAll entries c) := by
  intro entries
  induction entries with
  | nil => exact fun c => ⟨[], .finished rfl (by simp) (.nil _) rfl (Or.inl rfl)⟩
  | cons entry rest ih =>
      intro c
      obtain ⟨line, source⟩ := entry
      rw [runAll]
      cases hrun : runSource c.session.settings source c.session.env c.world with
      | ok value w =>
          rw [bind_of_ok (runOne_of_ok line hrun)]
          obtain ⟨trials, hran⟩ := ih _
          exact ⟨_, hran.cons hrun⟩
      | error fault w =>
          rw [bind_of_error (runOne_of_error line hrun)]
          have hw : (runSource c.session.settings source c.session.env).after c.world = w := by
            rw [Run.after, hrun]
          have htried : Tried c.session.settings c.session.env c.world
              ([] ++ [⟨line, source, .error fault w⟩]) w := by
            rw [← hrun]
            exact .cons line source (hw ▸ .nil _)
          exact ⟨_, .raised rfl (by simp) rfl htried rfl rfl⟩

end Console

/-! ## Sessions on the command line -/

/-- On the command line the sources that were tried have left the queue. -/
lemma Session.note_all : ∀ (trials : List Trial) {rest : List (Int × String)} {s : Session},
    s.interactive = true → s.queue = trials.map Trial.entry ++ rest →
    trials.foldl note s =
      { s with queue := rest, results := s.results ++ trials.filterMap Trial.value? } := by
  intro trials
  induction trials with
  | nil =>
      rintro rest s - rfl
      simp
  | cons t trials ih =>
      intro rest s hs hqueue
      have hnote : (s.note t).queue = trials.map Trial.entry ++ rest := by
        simp [note, hs, hqueue, Trial.entry, Ordered.erase]
      rw [List.foldl_cons, ih (s := s.note t) hs hnote]
      cases ht : t.value? <;> simp [note, ht]

/-- What can be asked of a session: to queue a source, to run what is queued, to hand out the latest
result.  In between anything outside of the session may change. -/
inductive Demand where
  | add (source : String) (line : Int)
  | run
  | pop
  | outside (world : World) (report : Report)

/-- The entry that a demand adds to the queue. -/
def Demand.added? : Demand → Option (Int × String)
  | .add source line => some (line, source)
  | _ => none

lemma Demand.added_cons (demand : Demand) (demands : List Demand) :
    (demand :: demands).filterMap Demand.added? =
      demand.added?.toList ++ demands.filterMap Demand.added? := by
  cases hadded : demand.added? <;> simp [hadded]

namespace Console

/-- The console after a demand. -/
def serve (c : Console) : Demand → Console
  | .add source line => c.changeSession fun s => s.add source line
  | .run =>
    match run c with
    | .ok _ c => c
    | .error _ c => c
  | .pop => c.changeSession fun s => s.pop.2
  | .outside world report => { c with world, report }

/-- The console after several demands. -/
def serveAll (c : Console) (demands : List Demand) : Console := demands.foldl serve c

/-- **What a demand does**, with the sources that are tried.  A run tries the queued sources from
the first on.  Either all succeed and the queue is empty, or one fails and those behind it stay.
The values of those that succeed become the latest results. -/
inductive Served (c : Console) : Demand → List Trial → Console → Prop where
  | add {source : String} {line : Int} {c' : Console} :
      c'.world = c.world →
      c'.session = { c.session with queue := c.session.queue ++ [(line, source)] } →
      Served c (.add source line) [] c'
  | pop {c' : Console} :
      c'.world = c.world →
      c'.session = { c.session with results := c.session.results.dropLast } →
      Served c .pop [] c'
  | outside {world : World} {report : Report} {c' : Console} :
      c'.session = c.session → Served c (.outside world report) [] c'
  | finished {trials : List Trial} {c' : Console} :
      run c = .ok () c' →
      c.session.queue = trials.map Trial.entry → (∀ t ∈ trials, t.value?.isSome) →
      Tried c.session.settings c.session.env c.world trials c'.world →
      c'.session = { c.session with
        queue := [], results := c.session.results ++ trials.filterMap Trial.value? } →
      Served c .run trials c'
  | raised {trials : List Trial} {failing : Trial} {rest : List (Int × String)} {fault : Fault}
      {c' : Console} :
      run c = .error fault c' →
      c.session.queue = trials.map Trial.entry ++ failing.entry :: rest →
      (∀ t ∈ trials, t.value?.isSome) → failing.outcome = .error fault c'.world →
      Tried c.session.settings c.session.env c.world (trials ++ [failing]) c'.world →
      c'.session = { c.session with
        queue := rest, results := c.session.results ++ trials.filterMap Trial.value? } →
      Served c .run (trials ++ [failing]) c'

/-- What several demands do, with all the sources that are tried. -/
inductive Serves : Console → List Demand → List Trial → Console → Prop where
  | nil (c : Console) : Serves c [] [] c
  | cons {c c₁ c' : Console} {demand : Demand} {demands : List Demand}
      {trials later : List Trial} : Served c demand trials c₁ → Serves c₁ demands later c' →
      Serves c (demand :: demands) (trials ++ later) c'

variable {c c' : Console}

/-- A run on the command line. -/
lemma served_run (hc : c.session.interactive = true) :
    ∃ trials, c.Served .run trials (c.serve .run) := by
  obtain ⟨trials, hran⟩ := ran_runAll c.session.queue c
  refine ⟨trials, ?_⟩
  generalize hr : runAll c.session.queue c = r at hran
  cases hran with
  | @finished _ c' hqueue hall htried hsession _ =>
      have hnone : c.session.queue = trials.map Trial.entry ++ [] := by
        rw [hqueue, List.append_nil]
      rw [Session.note_all trials hc hnone] at hsession
      have hinteractive : c'.session.interactive = true := by rw [hsession, hc]
      have hend : run c = .ok () c' := by
        rw [run_of_runAll_ok hr, changeSession, if_pos hinteractive]
      rw [serve, hend]
      exact .finished hend hqueue hall htried hsession
  | @raised trials failing rest fault c' hqueue hall hfailing htried hsession _ =>
      have hend : run c = .error fault c' := run_of_runAll_error hr
      have hrest : c.session.queue = (trials ++ [failing]).map Trial.entry ++ rest := by
        simp [hqueue]
      rw [Session.note_all _ hc hrest] at hsession
      have hvalue : failing.value? = none := by rw [Trial.value?, hfailing]
      rw [serve, hend]
      refine .raised hend hqueue hall hfailing htried ?_
      simpa [hvalue] using hsession

/-- **One demand**, on the command line.  A source that is queued has a number of its own. -/
lemma served_serve (hc : c.session.interactive = true) {demand : Demand}
    (hnew : ∀ entry, demand.added? = some entry → entry.1 ∉ Ordered.keys c.session.queue) :
    ∃ trials, c.Served demand trials (c.serve demand) := by
  cases demand with
  | add source line =>
      refine ⟨[], .add rfl ?_⟩
      show { c.session with queue := Ordered.put line source c.session.queue } = _
      rw [Ordered.put_of_not_mem source (hnew (line, source) rfl)]
  | run => exact served_run hc
  | pop =>
      refine ⟨[], .pop rfl ?_⟩
      show c.session.pop.2 = _
      unfold Session.pop
      cases hlast : c.session.results.getLast? with
      | none =>
          rw [List.getLast?_eq_none_iff] at hlast
          rw [hlast, List.dropLast_nil, ← hlast]
      | some value => rfl
  | outside world report => exact ⟨[], .outside rfl⟩

/-- What a demand tries and leaves in the queue is what was queued and what it adds. -/
lemma Served.entries {demand : Demand} {trials : List Trial} (h : c.Served demand trials c') :
    trials.map Trial.entry ++ c'.session.queue =
      c.session.queue ++ demand.added?.toList := by
  cases h with
  | add _ hsession => simp [hsession, Demand.added?]
  | pop _ hsession => simp [hsession, Demand.added?]
  | outside hsession => simp [hsession, Demand.added?]
  | finished _ hqueue _ _ hsession => simp [hsession, hqueue, Demand.added?]
  | raised _ hqueue _ _ _ hsession => simp [hsession, hqueue, Demand.added?]

lemma Served.interactive {demand : Demand} {trials : List Trial} (h : c.Served demand trials c') :
    c'.session.interactive = c.session.interactive := by
  cases h with
  | add _ hsession => rw [hsession]
  | pop _ hsession => rw [hsession]
  | outside hsession => rw [hsession]
  | finished _ _ _ _ hsession => rw [hsession]
  | raised _ _ _ _ _ hsession => rw [hsession]

/-- But for a demand to hand one out, the values of the sources that succeed come behind the
results that there are. -/
lemma Served.results {demand : Demand} {trials : List Trial} (h : c.Served demand trials c')
    (hpop : demand ≠ .pop) :
    c'.session.results = c.session.results ++ trials.filterMap Trial.value? := by
  cases h with
  | add _ hsession => simp [hsession]
  | pop => exact absurd rfl hpop
  | outside hsession => simp [hsession]
  | finished _ _ _ _ hsession => simp [hsession]
  | @raised _ failing _ _ _ _ _ _ hfailing _ hsession =>
      have hvalue : failing.value? = none := by rw [Trial.value?, hfailing]
      simp [hsession, hvalue]

namespace Serves

variable {demands : List Demand} {trials : List Trial}

/-- Nothing is lost and nothing comes twice. -/
lemma entries (h : Serves c demands trials c') :
    trials.map Trial.entry ++ c'.session.queue =
      c.session.queue ++ demands.filterMap Demand.added? := by
  induction h with
  | nil c => simp
  | @cons c c₁ c' demand demands trials later hone _ ih =>
      rw [List.map_append, List.append_assoc, ih, ← List.append_assoc, hone.entries,
        List.append_assoc, Demand.added_cons]

lemma results (h : Serves c demands trials c') (hpop : .pop ∉ demands) :
    c'.session.results = c.session.results ++ trials.filterMap Trial.value? := by
  induction h with
  | nil c => simp
  | cons hone _ ih =>
      rw [List.mem_cons, not_or] at hpop
      rw [ih hpop.2, hone.results (Ne.symm hpop.1), List.filterMap_append, List.append_assoc]

end Serves

/-- Demands do what they do one by one. -/
lemma serves_serveAll : ∀ (demands : List Demand) {c : Console}, c.session.interactive = true →
    (Ordered.keys (c.session.queue ++ demands.filterMap Demand.added?)).Nodup →
    ∃ trials, Serves c demands trials (c.serveAll demands) := by
  intro demands
  induction demands with
  | nil => exact fun {c} _ _ => ⟨[], .nil c⟩
  | cons demand demands ih =>
      intro c hc hdistinct
      rw [Demand.added_cons] at hdistinct
      have hnew : ∀ entry, demand.added? = some entry → entry.1 ∉ Ordered.keys c.session.queue := by
        intro entry hadded hmem
        rw [hadded, Ordered.keys, List.map_append] at hdistinct
        exact (List.nodup_append.mp hdistinct).2.2 _ hmem _ (by simp) rfl
      obtain ⟨trials, hone⟩ := served_serve hc hnew
      rw [← List.append_assoc, ← hone.entries, List.append_assoc, Ordered.keys,
        List.map_append] at hdistinct
      obtain ⟨later, hrest⟩ :=
        ih (hone.interactive.trans hc) (List.nodup_append.mp hdistinct).2.1
      exact ⟨trials ++ later, .cons hone hrest⟩

/-- **A session on the command line neither loses nor repeats a source.**  Take any demands to it
that queue sources under numbers of their own.  The sources that are tried and those that are still
queued are, in this order, all that were ever queued, so that sources are tried in the order in
which they were queued, and none is tried twice.  Each run tries what is queued up to the first
source that fails, and leaves in the queue what is behind it.  The results are the values of the
sources that succeed, in order. -/
theorem serves_exactly_once (hc : c.session.interactive = true) {demands : List Demand}
    (hdistinct : (Ordered.keys (c.session.queue ++ demands.filterMap Demand.added?)).Nodup) :
    let c' := c.serveAll demands
    ∃ trials, Serves c demands trials c' ∧
      trials.map Trial.entry ++ c'.session.queue =
        c.session.queue ++ demands.filterMap Demand.added? ∧
      (trials.map Trial.line).Nodup ∧
      (.pop ∉ demands →
        c'.session.results = c.session.results ++ trials.filterMap Trial.value?) := by
  intro c'
  obtain ⟨trials, hserves⟩ := serves_serveAll demands hc hdistinct
  refine ⟨trials, hserves, hserves.entries, ?_, hserves.results⟩
  rw [← hserves.entries, Ordered.keys, List.map_append, List.map_map] at hdistinct
  exact (List.nodup_append.mp hdistinct).1

/-- Three sources of which the second fails, and one that comes later. -/
theorem serves_exactly_once_resumed :
    let c : Console :=
      { world := { arena := Arena.default }, report := { fatal := false }
        session := { path := commandLineName, interactive := true } }
    let demands : List Demand :=
      [.add "1" 0, .add "(car 2)" 1, .add "(+ 1 2)" 2, .run, .add "4" 7, .run, .pop]
    let c' := c.serveAll demands
    (Ordered.keys (c.session.queue ++ demands.filterMap Demand.added?) = [0, 1, 2, 7] ∧
      (c.serveAll (demands.take 4)).session.queue = [(2, "(+ 1 2)")] ∧
      c'.session.queue = [] ∧
      c'.session.results.map Value.text = ["1", "3"]) ∧
    ∃ trials, Serves c demands trials c' ∧
      trials.map Trial.entry ++ c'.session.queue =
        [(0, "1"), (1, "(car 2)"), (2, "(+ 1 2)"), (7, "4")] := by
  intro c demands c'
  have hdistinct :
      (Ordered.keys (c.session.queue ++ demands.filterMap Demand.added?)).Nodup := by decide
  obtain ⟨trials, hserves, hentries, -, -⟩ := serves_exactly_once (c := c) rfl hdistinct
  exact ⟨by decide +kernel, trials, hserves, hentries⟩

end Console

end ArenaLisp
