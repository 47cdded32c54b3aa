import ArenaLisp.Proofs.Locations

/-!
# The traceback during a run

All sessions of a run share one report.  A source is entered in its traceback before it is run and
taken out after it has succeeded, or when a failure that is not fatal has been dealt with.  These
changes are made at different points of the program, by sessions, by the prompt and by the program
as a whole.  This file follows the report from one change to the next, through script files and
through the prompt, and shows that the traceback holds at most one source at any time.

* `Report.held` — the sources that a traceback holds.
* `Report.Change`, `Report.Course` — what can happen to a report, once and any number of times.  A
  source is entered only if there is none.
* `Report.Course.held_le_one` — what follows from that.
* `Console.reports`, `Host.scriptsReports`, `Prompt.reportsFrom`, `runReports` — the states of the
  report during a run.
* `course_runReports` — they are such a course.
* **`commandLine_locates`** — what a run of the program reports, and where.
-/

namespace ArenaLisp

/-! ## Changes to a report -/

/-- A value that is taken out of a table leaves the others. -/
lemma Ordered.held_put_none {κ α : Type} [DecidableEq κ] (key : κ) (t : Ordered κ (Option α)) :
    ((put key none t).filterMap (·.2)).length ≤ (t.filterMap (·.2)).length := by
  induction t with
  | nil => simp [put]
  | cons first rest ih =>
      obtain ⟨other, old⟩ := first
      by_cases hkey : other = key
      · cases old <;> simp [put, hkey]
      · cases old <;> simpa [put, hkey] using ih

namespace Report

/-- The sources that the traceback holds, each with the number of its first line. -/
def held (r : Report) : List (String × Int) := r.traceback.filterMap (·.2)

/-- **What can happen to a report**: a file is entered, or its source is taken out, which is the
same; the source that is run is entered; all sources are taken out; and failures become fatal or
cease to be. -/
inductive Change (r : Report) : Report → Prop where
  | registerFile (path : String) : Change r (r.registerFile path)
  | registerLine (path source : String) (line : Int) : r.Cleared →
      Change r (r.registerLine path source line)
  | clear : Change r r.clear
  | fatal (fatal : Bool) : Change r { r with fatal }

/-- A report from one change to the next. -/
inductive Course : Report → List Report → Report → Prop where
  | nil (r : Report) : Course r [] r
  | cons {r r₁ r' : Report} {rest : List Report} : Change r r₁ → Course r₁ rest r' →
      Course r (r₁ :: rest) r'

variable {r r₁ r' : Report}

lemma Change.course (h : Change r r') : Course r [r'] r' := .cons h (.nil r')

lemma Course.append {first second : List Report} (h : Course r first r₁)
    (h' : Course r₁ second r') : Course r (first ++ second) r' := by
  induction h with
  | nil => exact h'
  | cons hchange _ ih => exact .cons hchange (ih h')

/-- **One change** never leaves two sources in the traceback. -/
lemma Change.held_le_one (h : Change r r') (hr : r.held.length ≤ 1) : r'.held.length ≤ 1 := by
  cases h with
  | registerFile path => exact le_trans (Ordered.held_put_none path r.traceback) hr
  | registerLine path source line hcleared =>
      rw [held, Report.registerLine, Ordered.filterMap_put (fun _ => rfl) hcleared]
      rfl
  | clear => simp [held, Report.clear]
  | fatal => exact hr

/-- **Any number of changes.** -/
theorem Course.held_le_one {states : List Report} (h : Course r states r')
    (hr : r.held.length ≤ 1) : ∀ state ∈ states, state.held.length ≤ 1 := by
  induction h with
  | nil => simp
  | cons hchange _ ih =>
      have hnext := hchange.held_le_one hr
      exact List.forall_mem_cons.mpr ⟨hnext, ih hnext⟩

/-- The report after a fault was dealt with. -/
def afterFault (r : Report) (painter : Painter) (fault : Fault) : Report :=
  (r.handle painter fault.incident).2.2

lemma change_afterFault (r : Report) (painter : Painter) (fault : Fault) :
    Change r (r.afterFault painter fault) := by
  unfold afterFault
  rcases fault.incident_cases with h | ⟨d, h⟩ | ⟨label, message, h⟩ <;>
    simp only [h, handle, throw]
  · exact .fatal true
  · split_ifs
    · exact .fatal r.fatal
    · exact .clear
  · split_ifs
    · exact .fatal r.fatal
    · exact .clear

end Report

/-! ## Script files -/

namespace Console

/-- The states of the report while sources are run.  Each source is entered, and if it succeeds it
is taken out again and the next one is run. -/
def reports : List (Int × String) → Console → List Report
  | [], _ => []
  | (line, source) :: rest, c =>
    c.report.registerLine c.session.path source line ::
      match runOne line source c with
      | .ok _ c => c.report :: reports rest c
      | .error _ _ => []

/-- A source that has succeeded is taken out of the traceback. -/
lemma course_ok {r : Report} (hr : r.Cleared) (path source : String) (line : Int) :
    Report.Course r [r.registerLine path source line, r.registerFile path]
      (r.registerFile path) := by
  have hremove : Report.Change (r.registerLine path source line) (r.registerFile path) := by
    rw [← r.removeLine_registerLine path source line]
    exact .registerFile _
  exact .cons (.registerLine _ _ _ hr) hremove.course

/-- Sources are run one by one. -/
lemma course_reports : ∀ (entries : List (Int × String)) {c : Console}, c.report.Cleared →
    Report.Course c.report (reports entries c) (finalState (runAll entries c)).report := by
  intro entries
  induction entries with
  | nil => exact fun {c} _ => .nil c.report
  | cons entry rest ih =>
      intro c hc
      obtain ⟨line, source⟩ := entry
      rw [reports, runAll]
      cases hrun : runSource c.session.settings source c.session.env c.world with
      | ok value w =>
          have hone := runOne_of_ok line hrun
          rw [bind_of_ok hone, hone]
          exact (course_ok hc _ source line).append (ih (c := ⟨w, _, _⟩) (hc.registerFile _))
      | error fault w =>
          have hone := runOne_of_error line hrun
          rw [bind_of_error hone, hone]
          exact (Report.Change.registerLine _ _ _ hc).course

/-- All that happens to the report in a run happens while the queued sources are run. -/
lemma report_run (c : Console) :
    (finalState (run c)).report = (finalState (runAll c.session.queue c)).report := by
  cases hrun : runAll c.session.queue c with
  | ok _ c' =>
      rw [run_of_runAll_ok hrun]
      rfl
  | error fault c' => rw [run_of_runAll_error hrun]

end Console

namespace Host

/-- The states of the report while a script file is run. -/
def scriptReports (s : Settings) (path : String) (h : Host) : List Report :=
  h.report.registerFile path ::
    match Session.start h.world.files h.report 0 s path false with
    | (.error _, _) => []
    | (.ok session, report) =>
      Console.reports session.queue { world := h.world, report, session }

/-- The states of the report while script files are run. -/
def scriptsReports (s : Settings) : List String → Host → List Report
  | [], _ => []
  | path :: rest, h =>
    scriptReports s path h ++
      match runScript s path h with
      | .ok _ h => scriptsReports s rest h
      | .error _ _ => []

variable {s : Settings} {h : Host}

lemma report_ofRun (r : EStateM.Result Fault Console Unit) :
    (finalState (ofRun r)).report = (finalState r).report := by
  cases r <;> rfl

lemma course_scriptReports (path : String) (hcleared : h.report.Cleared) :
    Report.Course h.report (scriptReports s path h) (finalState (runScript s path h)).report := by
  rcases Session.start_cases h.world.files h.report 0 s path with
    ⟨fault, -, hstart⟩ | ⟨text, -, hstart⟩
  · rw [scriptReports, runScript, hstart]
    exact (Report.Change.registerFile path).course
  · rw [scriptReports, runScript_of_start hstart, hstart, report_ofRun, Console.report_run]
    exact .cons (.registerFile path)
      (Console.course_reports _ (c := ⟨h.world, _, _⟩) (hcleared.registerFile path))

/-- A script file that succeeds leaves nothing but its path in the report. -/
lemma report_of_runScript {path : String} {h' : Host} (hrun : runScript s path h = .ok () h') :
    h'.report = h.report.registerFile path := by
  have hran := ran_runScript s path h
  rw [hrun] at hran
  cases hran with
  | finished => rfl

/-- Script files are run one by one. -/
lemma course_scriptsReports : ∀ (paths : List String) {h : Host}, h.report.Cleared →
    Report.Course h.report (scriptsReports s paths h) (finalState (runScripts s paths h)).report ∧
      ∀ h', runScripts s paths h = .ok () h' → h'.report.Cleared := by
  intro paths
  induction paths with
  | nil =>
      intro h hcleared
      refine ⟨.nil h.report, fun h' hrun => ?_⟩
      cases hrun
      exact hcleared
  | cons path rest ih =>
      intro h hcleared
      have hscript := course_scriptReports (s := s) path hcleared
      rw [scriptsReports, runScripts]
      cases hrun : runScript s path h with
      | ok _ h' =>
          have hreport := report_of_runScript hrun
          rw [hrun] at hscript
          obtain ⟨hcourse, hend⟩ := ih (h := h') (hreport ▸ hcleared.registerFile path)
          rw [bind_of_ok hrun]
          exact ⟨hscript.append hcourse, hend⟩
      | error fault h' =>
          rw [hrun] at hscript
          rw [bind_of_error hrun]
          exact ⟨by simpa using hscript, fun _ hok => by cases hok⟩

end Host

/-! ## The prompt -/

namespace Prompt

/-- The states of the report while a complete source is run at the prompt and, if it fails, is
reported on. -/
def completeReports (c : Console) (source : String) (number : Nat) : List Report :=
  let queued := c.changeSession fun s => s.add source number
  Console.reports queued.session.queue queued ++
    match runSourceText source number c with
    | .ok _ _ => []
    | .error fault c => [c.report.afterFault c.world.painter fault]

/-- The states of the report while a line is acted on. -/
def lineReports (p : Prompt) (line : List Char) : List Report :=
  match command line with
  | .source line =>
    let source := joined p.pending (String.ofList line)
    if isOpen source.toList then [] else completeReports p.console source (p.lineNumber + 1)
  | _ => []

/-- The states of the report at the prompt, within a number of turns, and when a fault has escaped
from it or a line could not be read. -/
def reportsFrom : Nat → Prompt → List Report
  | 0, _ => []
  | turns + 1, p =>
    match (p.print p.mark).readLine with
    | (.error fault, p) =>
      [p.console.report.afterFault p.console.world.painter (.stray fault.stray)]
    | (.ok line, p) =>
      p.lineReports line ++
        match p.enter line with
        | (.next, p) => reportsFrom turns p
        | (.escaped fault, p) =>
          [p.console.report.afterFault p.console.world.painter fault]
        | _ => []

variable {p : Prompt}

/-- A complete source. -/
lemma course_complete {c : Console} (hidle : c.session.Idle) (hcalm : c.report.Calm)
    (source : String) (number : Nat) :
    Report.Course c.report (completeReports c source number)
      (complete c source number).2.console.report := by
  have hqueue : (c.changeSession fun s => s.add source number).session.queue =
      [((number : Int), source)] := by
    show Ordered.put (number : Int) source c.session.queue = _
    rw [hidle.queue]
    rfl
  unfold completeReports
  simp only [hqueue, Console.reports]
  cases hrun : runSource c.session.settings source c.session.env c.world with
  | ok value w =>
      have hone := Console.runOne_of_ok (c := c.changeSession fun s => s.add source number)
        (number : Int) hrun
      rw [runSourceText_of_ok number hidle hrun, complete_of_ok number hidle hrun, hone]
      exact Console.course_ok hcalm.cleared _ _ _
  | error fault w =>
      have hone := Console.runOne_of_error (c := c.changeSession fun s => s.add source number)
        (number : Int) hrun
      rw [complete, runSourceText_of_error number hidle hrun, hone]
      refine .cons (.registerLine _ _ _ hcalm.cleared) ?_
      have hafter := Report.change_afterFault
        (c.report.registerLine c.session.path source number) w.painter fault
      simp only [Console.handle]
      unfold Report.afterFault at hafter ⊢
      generalize Report.handle _ _ fault.incident = reported at hafter ⊢
      obtain ⟨text, verdict, report⟩ := reported
      cases verdict <;> exact hafter.course

/-- **One line.** -/
lemma Ready.course_line (h : p.Ready) (line : List Char) :
    Report.Course p.console.report (p.lineReports line) (p.enter line).2.console.report := by
  unfold lineReports Prompt.enter
  cases command line with
  | nothing => exact .nil _
  | help => exact .nil _
  | leave => exact .nil _
  | endOfInput => exact .nil _
  | source line =>
      simp only [enterSource]
      split_ifs with hopen
      · exact .nil _
      · exact course_complete h.idle h.calm _ _

/-- **Any number of turns at the prompt.**  The induction is on the turns.  Between two of them the
prompt is ready, so that no source is being run. -/
lemma Ready.course_turns (turns : Nat) : ∀ {p : Prompt}, p.Ready →
    ∃ last, Report.Course p.console.report (reportsFrom turns p) last := by
  induction turns with
  | zero => exact fun {p} _ => ⟨_, .nil p.console.report⟩
  | succ turns ih =>
      intro p h
      have hread := (h.print p.mark).readLine
      have hreport := (p.print p.mark).readLine_spec.1.2
      rw [show p.console.report = (p.print p.mark).console.report from rfl, ← hreport, reportsFrom]
      generalize (p.print p.mark).readLine = read at hread ⊢
      obtain ⟨line, q⟩ := read
      cases line with
      | error fault => exact ⟨_, (Report.change_afterFault _ _ (.stray fault.stray)).course⟩
      | ok line =>
          have hline := hread.course_line line
          have hnext := hread.enter line
          simp only
          generalize q.enter line = outcome at hline hnext ⊢
          obtain ⟨reply, next⟩ := outcome
          cases reply with
          | next =>
              obtain ⟨last, hlast⟩ := ih (hnext rfl)
              exact ⟨last, hline.append hlast⟩
          | stop => exact ⟨_, by simpa using hline⟩
          | exit code => exact ⟨_, by simpa using hline⟩
          | escaped fault => exact ⟨_, hline.append (Report.change_afterFault _ _ fault).course⟩

end Prompt

/-! ## The program -/

/-- The states of the report from the opening of the prompt on. -/
def Host.promptReports (h : Host) (s : Settings) : List Report :=
  let entered := h.report.registerFile commandLineName
  let report := { entered with fatal := false }
  let session : Session := { path := commandLineName, interactive := true, settings := s }
  let p : Prompt := { console := { world := h.world, report, session } }
  entered :: report ::
    Prompt.reportsFrom (h.world.input.size + 1) (p.print (Prompt.intro ++ "\n"))

/-- **The states of the report during a run**, from one change to the next, in the world in which
the script files are run. -/
def runReports (o : Options) (w : World) : List Report :=
  match w.files.expand o.files with
  | none => [Report.afterFault {} w.painter (.stray .nullByte)]
  | some paths =>
    let settings := o.settings w.platform.stack
    Host.scriptsReports settings paths { world := w } ++
      match Host.runScripts settings paths { world := w } with
      | .error fault h => [h.report.afterFault h.world.painter fault]
      | .ok _ h => if paths.isEmpty || o.interactive then h.promptReports settings else []

lemma Host.course_promptReports {h : Host} (s : Settings) (hcleared : h.report.Cleared) :
    ∃ last, Report.Course h.report (h.promptReports s) last := by
  let report : Report := { h.report.registerFile commandLineName with fatal := false }
  let session : Session := { path := commandLineName, interactive := true, settings := s }
  let p : Prompt := { console := { world := h.world, report, session } }
  have hready : p.Ready :=
    ⟨Or.inl ⟨rfl, rfl⟩, ⟨rfl, rfl, rfl⟩, rfl, hcleared.registerFile commandLineName⟩
  obtain ⟨last, hlast⟩ :=
    (hready.print (Prompt.intro ++ "\n")).course_turns (h.world.input.size + 1)
  exact ⟨last, .cons (.registerFile commandLineName) (.cons (.fatal false) hlast)⟩

/-- **The states of the report** follow from each other, from a fresh report on. -/
theorem course_runReports (o : Options) (w : World) :
    ∃ last, Report.Course {} (runReports o w) last := by
  have hfresh : Report.Cleared {} := by simp [Report.Cleared]
  unfold runReports
  cases w.files.expand o.files with
  | none => exact ⟨_, (Report.change_afterFault {} _ _).course⟩
  | some paths =>
      simp only
      generalize o.settings w.platform.stack = s
      obtain ⟨hscripts, hend⟩ :=
        Host.course_scriptsReports (s := s) paths (h := { world := w }) hfresh
      generalize Host.runScripts s paths { world := w } = r at hscripts hend ⊢
      cases r with
      | error fault h => exact ⟨_, hscripts.append (Report.change_afterFault _ _ fault).course⟩
      | ok _ h =>
          simp only
          split_ifs with hprompt
          · obtain ⟨last, hlast⟩ := Host.course_promptReports s (hend h rfl)
            exact ⟨last, hscripts.append hlast⟩
          · exact ⟨_, by simpa using hscripts⟩

/-- The world in which the script files of a run are started. -/
def Options.started (o : Options) (w : World) : World :=
  { w with
    verbose := o.verbose
    arena := Arena.default.bindHostValues o.scriptArgs w.environ }

/-- A run of script files and of nothing else. -/
lemma commandLine_scripts {arguments : List String} {o : Options}
    (ho : Invocation.ofArguments arguments = .run o) (htest : o.testDirectory = none) {w : World}
    {paths : List String} (hpaths : w.files.expand o.files = some paths)
    (hprompt : (paths.isEmpty || o.interactive) = false) :
    commandLine arguments w =
      Host.conclude
        (Host.runScripts (o.settings w.platform.stack) paths { world := o.started w }) := by
  simp only [commandLine, ho, htest, scriptCommand, Options.started, hpaths, hprompt]
  generalize Host.runScripts _ paths _ = r
  cases r <;> rfl

/-- **A failure is reported where it happened.**  Let arguments ask for a run of script files or of
the prompt.  At any time of the run the traceback holds at most one source.  And if there are script
files and no prompt after them, the run ends with all of them evaluated, or with a file that cannot
be opened, or with the first source that fails.  In that case all that comes before this source has
been evaluated and nothing behind it, the report shows the file, the number of the line at which the
source starts, and the source, and the code is 1. -/
theorem commandLine_locates {arguments : List String} {o : Options}
    (ho : Invocation.ofArguments arguments = .run o) (htest : o.testDirectory = none) (w : World) :
    let start := o.started w
    (∃ last, Report.Course {} (runReports o start) last) ∧
    (∀ r ∈ runReports o start, r.held.length ≤ 1) ∧
    ∀ paths, w.files.expand o.files = some paths → paths ≠ [] → o.interactive = false →
      ScriptsEnd (o.settings w.platform.stack) start paths (commandLine arguments w) := by
  intro start
  obtain ⟨last, hcourse⟩ := course_runReports o start
  refine ⟨⟨last, hcourse⟩, hcourse.held_le_one (by simp [Report.held]), ?_⟩
  intro paths hpaths hne hscripts
  rw [commandLine_scripts ho htest hpaths (by simp [hne, hscripts])]
  exact Host.scriptsEnd_runScripts _ paths (h := { world := start }) rfl
    (by simp [Report.Cleared])

/-- Two script files.  The second fails in a source that stands on two lines. -/
theorem commandLine_locates_second :
    let w : World := { files := { entries := [
      (["a"], .file (Text.Utf8.encode "(define x 1)\n".toList)),
      (["b"], .file (Text.Utf8.encode "(print x)\n\n(car\n x)\n(print 2)\n".toList))] } }
    let o : Options := { files := ["a", "b"] }
    let result := commandLine ["a", "b"] w
    (Invocation.ofArguments ["a", "b"] = .run o ∧ w.files.expand o.files = some ["a", "b"] ∧
      (result.1 matches .exit 1) ∧ result.2.output = "1\n" ∧
      result.2.errors = "  File 'b', line 3:\n    (car\n x)\n" ++
        "error: 'car' expects list, got Integer(value=1)\n" ∧
      (runReports o (o.started w)).map Report.held =
        [[], [("(define x 1)", 1)], [], [], [("(print x)", 1)], [], [("(car\n x)", 3)],
          [("(car\n x)", 3)]]) ∧
    ScriptsEnd (o.settings w.platform.stack) (o.started w) ["a", "b"] result := by
  intro w o result
  have harguments : Invocation.ofArguments ["a", "b"] = .run o := by rfl
  have hpaths : w.files.expand o.files = some ["a", "b"] := by decide +kernel
  obtain ⟨-, -, hend⟩ := commandLine_locates harguments rfl w
  refine ⟨⟨harguments, hpaths, by decide +kernel⟩, ?_⟩
  exact hend ["a", "b"] hpaths (by simp) rfl

end ArenaLisp
