import ArenaLisp.Proofs.Coupling
import ArenaLisp.Proofs.Scopes
import ArenaLisp.Prompt

/-!
# The prompt is ready for the next line

Between two lines the prompt keeps several things: the source that is still open, the mark that is
shown, the queue and the results of its session, and the traceback of its reports.  They are changed
at different points, some before a source is run, some after it and some only if it fails.  This
file shows that none of them is left over from an earlier line.

* `Session.Idle`, `Report.Calm`, `Prompt.Marked` — what is to hold of each part between two lines.
* `Prompt.runSourceText_of_ok`, `Prompt.runSourceText_of_error` — what running a source at the
  prompt comes to.  Everything else follows from this.
* `Fault.diagnosis`, `Fault.isStray` — what is written about a fault, and the faults that escape.
* `Prompt.complete_of_error` — what becomes of a source that fails.
* `Prompt.Ready.enter` — a line that is entered leaves the prompt ready.
* **`Prompt.ready_of_mem_states`** — the prompt is ready after any lines.
-/

namespace ArenaLisp

/-- A session of the command line with nothing to run and no value left to take. -/
structure Session.Idle (s : Session) : Prop where
  interactive : s.interactive = true
  queue : s.queue = []
  results : s.results = []

/-- Failures do not end the program, and no source is being run. -/
structure Report.Calm (r : Report) : Prop where
  fatal : r.fatal = false
  cleared : ∀ entry ∈ r.traceback, entry.2 = none

/-- Either nothing is pending, or the source that is pending is open; the mark tells which. -/
def Prompt.Marked (p : Prompt) : Prop :=
  (p.pending = "" ∧ p.mark = "> ") ∨
    (p.pending ≠ "" ∧ isOpen p.pending.toList = true ∧ p.mark = ". ")

/-- A prompt that is ready for the next line. -/
structure Prompt.Ready (p : Prompt) : Prop where
  marked : p.Marked
  idle : p.console.session.Idle
  calm : p.console.report.Calm

/-! ## The state of reporting -/

lemma Ordered.put_put [DecidableEq κ] (key : κ) (value other : α) (t : Ordered κ α) :
    put key value (put key other t) = put key value t := by
  induction t with
  | nil => simp [put]
  | cons first rest ih =>
      by_cases hkey : first.1 = key
      · simp [put, hkey]
      · simp [put, hkey, ih]

namespace Report

variable {r : Report}

/-- A source that has succeeded leaves no trace in the traceback. -/
lemma removeLine_registerLine (r : Report) (path source : String) (line : Int) :
    (r.registerLine path source line).removeLine path = r.registerFile path := by
  simp [registerLine, removeLine, registerFile, Ordered.put_put]

/-- The traceback holds no source. -/
def Cleared (r : Report) : Prop := ∀ entry ∈ r.traceback, entry.2 = none

lemma Cleared.registerFile (h : r.Cleared) (path : String) : (r.registerFile path).Cleared := by
  intro entry hmem
  rcases Ordered.mem_put hmem with rfl | hmem
  · rfl
  · exact h entry hmem

lemma Calm.registerFile (h : r.Calm) (path : String) : (r.registerFile path).Calm where
  fatal := h.fatal
  cleared := Cleared.registerFile h.cleared path

lemma calm_clear (h : r.fatal = false) : r.clear.Calm where
  fatal := h
  cleared := by
    intro entry hmem
    obtain ⟨_, -, rfl⟩ := List.mem_map.mp hmem
    rfl

end Report

/-! ## Reporting a fault -/

/-- What is written about a fault. -/
def Fault.diagnosis (fault : Fault) : Diagnostic :=
  match fault.incident with
  | .language d => d
  | .stray label message => Report.internalFailure label message
  | .recursion | .interrupt | .exit _ =>
    { kind := .generic, parts := [.plain "maximum recursion depth exceeded"] }

/-- A fault that is no error of the language, nor too deep a recursion. -/
def Fault.isStray (fault : Fault) : Bool :=
  match fault.incident with
  | .stray .. => true
  | _ => false

lemma Fault.incident_cases (fault : Fault) :
    fault.incident = .recursion ∨ (∃ d, fault.incident = .language d) ∨
      ∃ label message, fault.incident = .stray label message := by
  unfold Fault.incident
  cases fault.diagnostic? with
  | some d => exact Or.inr (Or.inl ⟨d, rfl⟩)
  | none => cases fault.stray? with
    | some other => exact Or.inr (Or.inr ⟨_, _, rfl⟩)
    | none => exact Or.inl rfl

/-- What becomes of a fault where failures are not fatal. -/
lemma Report.handle_of_not_fatal {r : Report} (h : r.fatal = false) (painter : Painter)
    (fault : Fault) :
    let text := r.text painter fault.diagnosis
    (fault.isStray = false ∧ r.handle painter fault.incident = (text, .suppressed, r.clear)) ∨
    (fault.isStray = false ∧ ∃ r', r.handle painter fault.incident = (text, .exit 1, r')) ∨
    (fault.isStray = true ∧ r.handle painter fault.incident = (text, .escapes, r.clear)) := by
  unfold Fault.diagnosis Fault.isStray
  rcases fault.incident_cases with hf | ⟨d, hf⟩ | ⟨label, message, hf⟩
  · exact Or.inr (Or.inl ⟨by rw [hf], _, by rw [hf]; rfl⟩)
  · exact Or.inl ⟨by rw [hf], by simp [hf, handle, throw, h]⟩
  · exact Or.inr (Or.inr ⟨by rw [hf], by simp [hf, handle, throw, h]⟩)

/-! ## Running a source -/

/-- The world after the value of a source was shown.  Unit is not shown. -/
def World.display (w : World) : Value → World
  | .unit => w
  | value => w.print (value.text ++ "\n")

section Idle

variable {c : Console} {source : String} {w : World}

namespace Console

/-- Queued sources are run before anything else happens. -/
lemma run_eq (c : Console) : run c = (runAll c.session.queue >>= fun _ => modify fun c =>
    c.changeSession fun s => if s.interactive then s else { s with queue := [] }) c :=
  bind_of_ok rfl

lemma run_of_runAll_ok {c c' : Console} (h : runAll c.session.queue c = .ok () c') :
    run c = .ok () (c'.changeSession fun s =>
      if s.interactive then s else { s with queue := [] }) := by
  rw [run_eq, bind_of_ok h]
  rfl

lemma run_of_runAll_error {c c' : Console} {fault : Fault}
    (h : runAll c.session.queue c = .error fault c') : run c = .error fault c' := by
  rw [run_eq, bind_of_error h]

/-- A source queued on an idle session is the only one that is run.  If it succeeds, its value is
the only result. -/
lemma run_of_ok (line : Nat) (h : c.session.Idle) {value : Value}
    (hrun : runSource c.session.settings source c.session.env c.world = .ok value w) :
    run (c.changeSession fun s => s.add source line) =
      .ok () { c with
        world := w
        report := c.report.registerFile c.session.path
        session := { c.session with results := [value] } } := by
  obtain ⟨world, report, path, interactive, env, settings, queue, results⟩ := c
  obtain ⟨rfl, rfl, rfl⟩ := h
  have hone : runOne line source ⟨world, report, path, true, env, settings, [(line, source)], []⟩ =
      .ok () ⟨w, report.registerFile path, path, true, env, settings, [], [value]⟩ := by
    simp [runOne, onWorld, hrun, dequeue, changeSession, Ordered.erase,
      Report.removeLine_registerLine]
  rw [run_eq]
  exact bind_of_ok (bind_of_ok hone)

/-- If it fails, it stands in the traceback. -/
lemma run_of_error (line : Nat) (h : c.session.Idle) {fault : Fault}
    (hrun : runSource c.session.settings source c.session.env c.world = .error fault w) :
    run (c.changeSession fun s => s.add source line) =
      .error fault { c with
        world := w
        report := c.report.registerLine c.session.path source line } := by
  obtain ⟨world, report, path, interactive, env, settings, queue, results⟩ := c
  obtain ⟨rfl, rfl, rfl⟩ := h
  have hone : runOne line source ⟨world, report, path, true, env, settings, [(line, source)], []⟩ =
      .error fault
        ⟨w, report.registerLine path source line, path, true, env, settings, [], []⟩ := by
    simp [runOne, onWorld, hrun, dequeue, changeSession, Ordered.erase]
  rw [run_eq]
  exact bind_of_error (bind_of_error hone)

end Console

namespace Prompt

/-- **A source that succeeds at the prompt** has its value shown and leaves the session as it
was. -/
theorem runSourceText_of_ok (line : Nat) (h : c.session.Idle) {value : Value}
    (hrun : runSource c.session.settings source c.session.env c.world = .ok value w) :
    runSourceText source line c =
      .ok () { c with
        world := w.display value
        report := c.report.registerFile c.session.path } := by
  have hqueued := Console.run_of_ok line h hrun
  obtain ⟨world, report, path, interactive, env, settings, queue, results⟩ := c
  obtain ⟨rfl, rfl, rfl⟩ := h
  refine (bind_of_ok rfl).trans ((bind_of_ok hqueued).trans ?_)
  cases value <;> rfl

/-- **A source that fails at the prompt** stands in the traceback, and leaves the session as it
was. -/
theorem runSourceText_of_error (line : Nat) (h : c.session.Idle) {fault : Fault}
    (hrun : runSource c.session.settings source c.session.env c.world = .error fault w) :
    runSourceText source line c =
      .error fault { c with
        world := w
        report := c.report.registerLine c.session.path source line } :=
  (bind_of_ok rfl).trans (bind_of_error (Console.run_of_error line h hrun))

lemma complete_of_ok (line : Nat) (h : c.session.Idle) {value : Value}
    (hrun : runSource c.session.settings source c.session.env c.world = .ok value w) :
    complete c source line =
      (.next, {
        console := { c with
          world := w.display value
          report := c.report.registerFile c.session.path }
        lineNumber := line }) := by
  simp only [complete, runSourceText_of_ok line h hrun]

/-- **What becomes of a source that fails.**  Its report is written in any case.  Then the prompt
goes on after an error of the language, too deep a recursion leaves the program, and a stray
escapes. -/
theorem complete_of_error (line : Nat) (h : c.session.Idle) (hfatal : c.report.fatal = false)
    {fault : Fault}
    (hrun : runSource c.session.settings source c.session.env c.world = .error fault w) :
    let r := c.report.registerLine c.session.path source line
    let text := r.text w.painter fault.diagnosis
    let after (report : Report) : Prompt :=
      { console := { c with world := { w with errors := w.errors ++ text }, report }
        lineNumber := line }
    (fault.isStray = false ∧ complete c source line = (.next, after r.clear)) ∨
    (fault.isStray = false ∧ ∃ r', complete c source line = (.exit 1, after r')) ∨
    (fault.isStray = true ∧ complete c source line = (.escaped fault, after r.clear)) := by
  intro r text after
  have hr : r.fatal = false := hfatal
  simp only [complete, runSourceText_of_error line h hrun, Console.handle]
  rcases Report.handle_of_not_fatal hr w.painter fault with
    ⟨hstray, hhandle⟩ | ⟨hstray, r', hhandle⟩ | ⟨hstray, hhandle⟩
  · exact Or.inl ⟨hstray, by rw [hhandle]⟩
  · exact Or.inr (Or.inl ⟨hstray, r', by rw [hhandle]⟩)
  · exact Or.inr (Or.inr ⟨hstray, by rw [hhandle]⟩)

end Prompt

end Idle

/-! ## One line -/

/-- The prompt can be given another line. -/
def Prompt.Reply.remains : Prompt.Reply → Bool
  | .next | .stop => true
  | .exit _ | .escaped _ => false

namespace Prompt

variable {p : Prompt}

/-- A complete source leaves the prompt ready, whether it succeeds or its failure is dealt with. -/
lemma ready_complete {c : Console} (hidle : c.session.Idle) (hcalm : c.report.Calm)
    (source : String) (number : Nat) (h : (complete c source number).1.remains = true) :
    (complete c source number).2.Ready := by
  cases hrun : runSource c.session.settings source c.session.env c.world with
  | ok value w =>
      rw [complete_of_ok number hidle hrun]
      exact ⟨Or.inl ⟨rfl, rfl⟩, hidle, hcalm.registerFile _⟩
  | error fault w =>
      rcases complete_of_error number hidle hcalm.fatal hrun with
        ⟨-, heq⟩ | ⟨-, r', heq⟩ | ⟨-, heq⟩
      · rw [heq]
        exact ⟨Or.inl ⟨rfl, rfl⟩, hidle, Report.calm_clear hcalm.fatal⟩
      · rw [heq] at h
        cases h
      · rw [heq] at h
        cases h

lemma Ready.print (h : p.Ready) (text : String) : (p.print text).Ready :=
  ⟨h.marked, h.idle, h.calm⟩

lemma Ready.readLine (h : p.Ready) : p.readLine.2.Ready := by
  unfold Prompt.readLine
  rcases p.console.world.input.readLine with ⟨fault | line, input⟩
  · exact ⟨h.marked, h.idle, h.calm⟩
  · cases line <;> exact ⟨h.marked, h.idle, h.calm⟩

/-- **One line.**  A line that does not leave the program leaves the prompt ready. -/
theorem Ready.enter (h : p.Ready) (line : List Char) (hr : (p.enter line).1.remains = true) :
    (p.enter line).2.Ready := by
  unfold Prompt.enter at hr ⊢
  cases hcommand : command line with
  | nothing => exact h
  | help => exact h.print _
  | leave => exact h
  | endOfInput => exact h.print _
  | source line =>
      simp only [hcommand, enterSource] at hr ⊢
      split_ifs at hr ⊢ with hopen
      · refine ⟨Or.inr ⟨fun hempty => ?_, hopen, rfl⟩, h.idle, h.calm⟩
        -- nothing is open in the empty text
        simp only at hempty
        rw [hempty] at hopen
        exact absurd hopen (by decide)
      · exact ready_complete h.idle h.calm _ _ hr

/-! ## Any lines -/

/-- The prompt at the start and after each of the lines.  The program is left with the first line
that exits or whose fault escapes. -/
def states (p : Prompt) : List (List Char) → List Prompt
  | [] => [p]
  | line :: rest =>
    let (reply, next) := p.enter line
    p :: if reply.remains then next.states rest else []

lemma Ready.states (lines : List (List Char)) : ∀ {p : Prompt}, p.Ready →
    ∀ q ∈ p.states lines, q.Ready := by
  induction lines with
  | nil =>
      intro p h q hq
      obtain rfl := List.mem_singleton.mp hq
      exact h
  | cons line rest ih =>
      intro p h q hq
      simp only [Prompt.states, List.mem_cons] at hq
      rcases hq with rfl | hq
      · exact h
      · split_ifs at hq with hr
        · exact ih (h.enter line hr) q hq
        · simp at hq

/-- **The prompt is ready after any lines.**  Take a fresh prompt on a fresh session of the command
line, with a report of its own, in any world.  Enter any lines, and as long as no line has left the
program: either nothing is pending and the mark is `"> "`, or an open source is pending and the mark
is `". "`; the session has nothing queued and no results; no entry of the traceback holds a source;
and failures are not fatal. -/
theorem ready_of_mem_states (w : World) (fatal : Bool) (env : Handle) (s : Settings) :
    ∃ session report,
      Session.start w.files { fatal } env s commandLineName true = (.ok session, report) ∧
      ∀ lines, ∀ p ∈ states { console := ⟨w, report, session⟩ } lines, p.Ready := by
  refine ⟨_, _, rfl, fun lines => Ready.states lines ?_⟩
  refine ⟨Or.inl ⟨rfl, rfl⟩, ⟨rfl, rfl, rfl⟩, rfl, ?_⟩
  simp [Report.registerFile, Ordered.put]

/-- A form over two lines with a blank line and a request for help in between, an error, a request
to leave, and a string that is left open. -/
theorem ready_of_mem_states_mixed :
    ∃ session report,
      Session.start {} { fatal := true } 0 {} commandLineName true = (.ok session, report) ∧
      let visited := states { console := ⟨{ arena := Arena.default }, report, session⟩ }
        (["(list 1", "", "help", "2)", "(car 1)", "exit", "\"a"].map String.toList)
      visited.map (fun p => (p.pending, p.mark)) =
        [("", "> "), ("(list 1", ". "), ("(list 1", ". "), ("(list 1", ". "), ("", "> "),
          ("", "> "), ("", "> "), ("\"a", ". ")] ∧
      ∀ p ∈ visited, p.Ready := by
  obtain ⟨session, report, hstart, hready⟩ :=
    ready_of_mem_states { arena := Arena.default } true 0 {}
  refine ⟨session, report, hstart, ?_, hready _⟩
  cases hstart
  decide +kernel

end Prompt

end ArenaLisp
