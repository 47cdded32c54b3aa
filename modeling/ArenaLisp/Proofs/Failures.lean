import ArenaLisp.CommandLine
import ArenaLisp.Proofs.Builtins
import ArenaLisp.Proofs.Readiness
import ArenaLisp.Proofs.Revisions
import ArenaLisp.Proofs.Scripts

/-!
# How often a failure is reported

A failure ends a script file or a line at the prompt, and is reported on standard error.  Two places
in the program report: the prompt, around each source that is run, and the program as a whole.  An
error of the language that the prompt has reported goes no further, and too deep a recursion leaves
the program at once.  A stray is reported by the prompt too but goes on, and the program reports it
once more.  Apart from that each failure is reported exactly once, and so is a line at the prompt
that cannot be read.

To say this, the failures of a run are listed first, from what loading and running its sources come
to and not from what is written about them.

* `Failure` — a fault with the traceback at that point, and `Failure.reports`, what is written.
* `scriptFailures` — the failures of a run of the program.
* `Logged`, `World.Wrote` — a log of reports, with the trace of steps in between if that is asked
  for.
* `wrote_runSource` — running a source reports nothing by itself.
* `Prompt.Lenient.enter` — one line at the prompt.
* **`commandLine_reports`** — a run of the program.
-/

namespace ArenaLisp

/-! ## Failures -/

/-- **A failure**: the fault, the state of reporting when it came up, and whether it came up in a
source that was run at the prompt. -/
structure Failure where
  fault : Fault
  report : Report
  prompted : Bool := false

namespace Failure

/-- The report of a failure. -/
def text (painter : Painter) (f : Failure) : String := f.report.text painter f.fault.diagnosis

/-- What is written about a failure.  A stray in a source at the prompt is reported again when the
traceback has been cleared. -/
def reports (painter : Painter) (f : Failure) : List String :=
  f.text painter ::
    if f.prompted && f.fault.isStray then [f.report.clear.text painter f.fault.diagnosis] else []

end Failure

/-- The failure that a line at the prompt ends in. -/
def Prompt.failure? (p : Prompt) (line : List Char) : Option Failure :=
  match command line with
  | .source line =>
    let source := joined p.pending (String.ofList line)
    if isOpen source.toList then none
    else
      match runSourceText source (p.lineNumber + 1) p.console with
      | .ok _ _ => none
      | .error fault c => some { fault, report := c.report, prompted := true }
  | _ => none

/-- The failures at the prompt, within a number of turns. -/
def Prompt.failuresFrom : Nat → Prompt → List Failure
  | 0, _ => []
  | turns + 1, p =>
    match (p.print p.mark).readLine with
    | (.error fault, p) => [{ fault := .stray fault.stray, report := p.console.report }]
    | (.ok line, p) =>
      (p.failure? line).toList ++
        match p.enter line with
        | (.next, p) => failuresFrom turns p
        | _ => []

/-- The failures at the prompt until it is left. -/
def Host.promptFailures (h : Host) (s : Settings) : List Failure :=
  match Session.start h.world.files h.report 0 s commandLineName true with
  | (.error fault, report) => [{ fault, report }]
  | (.ok session, report) =>
    let p : Prompt := { console := { world := h.world, report, session } }
    Prompt.failuresFrom (h.world.input.size + 1) (p.print (Prompt.intro ++ "\n"))

/-- **The failures of a run**: the one that ends the script files, or those at the prompt. -/
def scriptFailures (o : Options) (w : World) : List Failure :=
  let w := { w with arena := Arena.default.bindHostValues o.scriptArgs w.environ }
  match w.files.expand o.files with
  | none => [{ fault := .stray .nullByte, report := {} }]
  | some paths =>
    let settings := o.settings w.platform.stack
    match Host.runScripts settings paths { world := w } with
    | .error fault host => [{ fault, report := host.report }]
    | .ok _ host =>
      if paths.isEmpty || o.interactive then host.promptFailures settings else []

/-! ## The log -/

/-- **A log that holds reports**, in order, and between them only steps that were traced. -/
inductive Logged (verbose : Bool) : List String → String → Prop where
  | nil : Logged verbose [] ""
  | step {reports : List String} {log : String} (tracer : Tracer) (message : String) :
      verbose = true → Logged verbose reports log →
      Logged verbose reports (log ++ ("DEBUG:" ++ tracer.label ++ ": " ++ message ++ "\n"))
  | report {reports : List String} {log : String} (text : String) :
      Logged verbose reports log → Logged verbose (reports ++ [text]) (log ++ text)

lemma Logged.append {verbose : Bool} {reports later : List String} {log rest : String}
    (h : Logged verbose reports log) (h' : Logged verbose later rest) :
    Logged verbose (reports ++ later) (log ++ rest) := by
  induction h' with
  | nil => simpa using h
  | step tracer message hverbose _ ih =>
      rw [← String.append_assoc]
      exact .step tracer message hverbose ih
  | report text _ ih =>
      rw [← String.append_assoc, ← List.append_assoc]
      exact .report text ih

/-- Unless steps are traced, a log is its reports and nothing else. -/
lemma Logged.eq_join {reports : List String} {log : String} (h : Logged false reports log) :
    log = String.join reports := by
  induction h with
  | nil => rfl
  | step _ _ hverbose _ _ => cases hverbose
  | report text _ ih => simp [ih, String.join, List.foldl_append]

/-- What was written to standard error from one world to another. -/
structure World.Wrote (w w' : World) (reports : List String) : Prop extends w.SameHost w' where
  verbose : w'.verbose = w.verbose
  errors : ∃ log, w'.errors = w.errors ++ log ∧ Logged w.verbose reports log

namespace World.Wrote

variable {w w' w'' : World} {reports later : List String}

lemma of_same (hverbose : w'.verbose = w.verbose) (hhost : w.SameHost w')
    (herrors : w'.errors = w.errors) : w.Wrote w' [] :=
  ⟨hhost, hverbose, "", by rw [herrors, String.append_empty], .nil⟩

lemma refl (w : World) : w.Wrote w [] := of_same rfl (.refl w) rfl

lemma trans (h : w.Wrote w' reports) (h' : w'.Wrote w'' later) :
    w.Wrote w'' (reports ++ later) := by
  obtain ⟨log, hlog, hlogged⟩ := h.errors
  obtain ⟨rest, hrest, hlogged'⟩ := h'.errors
  refine ⟨h.toSameHost.trans h'.toSameHost, h'.verbose.trans h.verbose, log ++ rest, ?_, ?_⟩
  · rw [hrest, hlog, String.append_assoc]
  · rw [h.verbose] at hlogged'
    exact hlogged.append hlogged'

/-- Steps that come before reports. -/
lemma before (h : w.Wrote w' []) (h' : w'.Wrote w'' later) : w.Wrote w'' later := h.trans h'

/-- Steps that come after reports. -/
lemma after (h : w.Wrote w' reports) (h' : w'.Wrote w'' []) : w.Wrote w'' reports := by
  have hboth := h.trans h'
  rwa [List.append_nil] at hboth

lemma trace (w : World) (tracer : Tracer) (message : Unit → String) :
    w.Wrote (w.trace tracer message) [] := by
  unfold World.trace
  split_ifs with hverbose
  · refine ⟨⟨rfl, rfl⟩, rfl, _, ?_, Logged.step tracer (message ()) hverbose .nil⟩
    simp [String.append_assoc]
  · exact refl w

lemma report (w : World) (text : String) :
    w.Wrote { w with errors := w.errors ++ text } [text] :=
  ⟨⟨rfl, rfl⟩, rfl, text, rfl, by simpa using Logged.report text .nil⟩

end World.Wrote

/-! ## Running sources -/

/-- The primitive steps report nothing: a command is traced, and its messages go elsewhere. -/
lemma World.wrote_kept : World.Kept fun w w' => w.Wrote w' [] where
  refl := .refl
  trans h h' := h.before h'
  arena _ _ := .of_same rfl ⟨rfl, rfl⟩ rfl
  trace := .trace
  print _ _ := .of_same rfl ⟨rfl, rfl⟩ rfl
  readLine _ := .of_same rfl ⟨rfl, rfl⟩ rfl
  afterCommand _ _ := .of_same rfl ⟨rfl, rfl⟩ rfl

/-- **Running a source reports nothing** by itself, whether it succeeds or fails. -/
theorem wrote_runSource (s : Settings) (source : String) (env : Handle) (w : World) :
    w.Wrote ((runSource s source env).after w) [] :=
  World.wrote_kept.runSource s source env w

/-! ## Script files -/

/-- The state in which a computation ends. -/
def finalState : EStateM.Result ε σ α → σ
  | .ok _ s => s
  | .error _ s => s

lemma Console.wrote_runAll (queue : List (Int × String)) : ∀ c : Console,
    c.world.Wrote (finalState (runAll queue c)).world [] := by
  induction queue with
  | nil => exact fun c => .refl c.world
  | cons entry queue ih =>
      intro c
      obtain ⟨line, source⟩ := entry
      have hsource := wrote_runSource c.session.settings source c.session.env c.world
      unfold Run.after at hsource
      cases hrun : runSource c.session.settings source c.session.env c.world with
      | ok value w =>
          obtain ⟨c', hone, rfl, -, -⟩ := runOne_ok line hrun
          rw [hrun] at hsource
          rw [runAll, bind_of_ok hone]
          exact hsource.before (ih c')
      | error fault w =>
          obtain ⟨c', hone, rfl⟩ := runOne_error line hrun
          rw [hrun] at hsource
          rw [runAll, bind_of_error hone]
          exact hsource

lemma Console.wrote_run (c : Console) : c.world.Wrote (finalState (run c)).world [] := by
  have hall := wrote_runAll c.session.queue c
  cases hrun : runAll c.session.queue c with
  | ok value c' =>
      rw [hrun] at hall
      rw [run_of_runAll_ok hrun]
      exact hall
  | error fault c' =>
      rw [hrun] at hall
      rw [run_of_runAll_error hrun]
      exact hall

namespace Host

lemma wrote_runScript (s : Settings) (path : String) (h : Host) :
    h.world.Wrote (finalState (runScript s path h)).world [] := by
  unfold runScript
  cases Session.start h.world.files h.report 0 s path false with
  | mk started report =>
      cases started with
      | error fault => exact .refl h.world
      | ok session =>
          have hrun := Console.wrote_run { world := h.world, report, session }
          simp only
          generalize Console.run { world := h.world, report, session } = r at hrun ⊢
          cases r with
          | ok _ c => exact hrun
          | error fault c => exact hrun

/-- Running script files reports nothing by itself. -/
lemma wrote_runScripts (s : Settings) (paths : List String) : ∀ h : Host,
    h.world.Wrote (finalState (runScripts s paths h)).world [] := by
  induction paths with
  | nil => exact fun h => .refl h.world
  | cons path rest ih =>
      intro h
      have hscript := wrote_runScript s path h
      cases hrun : runScript s path h with
      | ok value h' =>
          rw [hrun] at hscript
          rw [runScripts, bind_of_ok hrun]
          exact hscript.before (ih h')
      | error fault h' =>
          rw [hrun] at hscript
          rw [runScripts, bind_of_error hrun]
          exact hscript

end Host

/-! ## One report -/

/-- What is written about a fault, whatever becomes of it. -/
lemma Report.handle_text (r : Report) (painter : Painter) (fault : Fault) :
    (r.handle painter fault.incident).1 = r.text painter fault.diagnosis := by
  unfold Fault.diagnosis
  rcases fault.incident_cases with h | ⟨d, h⟩ | ⟨label, message, h⟩
  · rw [h]
    rfl
  · rw [h]
    simp only [handle, throw]
    split_ifs <;> rfl
  · rw [h]
    simp only [handle, throw]
    split_ifs <;> rfl

/-- The program as a whole reports a fault once. -/
lemma Host.wrote_settle (h : Host) (fault : Fault) :
    h.world.Wrote (h.settle fault).2
      [h.report.text h.world.painter fault.diagnosis] := by
  have htext := h.report.handle_text h.world.painter fault
  unfold settle
  generalize h.report.handle _ fault.incident = reported at htext ⊢
  obtain ⟨text, verdict, report⟩ := reported
  obtain rfl : text = _ := htext
  cases verdict <;> exact .report h.world _

/-! ## The prompt -/

/-- A prompt whose session is idle, and at which failures are not fatal. -/
structure Prompt.Lenient (p : Prompt) : Prop where
  idle : p.console.session.Idle
  fatal : p.console.report.fatal = false

/-- **What a line at the prompt can do**, and what is written about it.  A stray is written about
like any other failure and goes on. -/
inductive Prompt.Entered (p : Prompt) : Option Failure → Prompt.Reply × Prompt → Prop where
  | next {q : Prompt} : q.Lenient → p.console.world.Wrote q.console.world [] →
      Entered p none (.next, q)
  | stop {q : Prompt} : p.console.world.Wrote q.console.world [] → Entered p none (.stop, q)
  | reported {q : Prompt} {f : Failure} : q.Lenient → f.fault.isStray = false →
      p.console.world.Wrote q.console.world [f.text p.console.world.painter] →
      Entered p (some f) (.next, q)
  | exit {q : Prompt} {f : Failure} {code : Int} : f.fault.isStray = false →
      p.console.world.Wrote q.console.world [f.text p.console.world.painter] →
      Entered p (some f) (.exit code, q)
  | escaped {q : Prompt} {f : Failure} : f.fault.isStray = true → f.prompted = true →
      q.console.report = f.report.clear →
      p.console.world.Wrote q.console.world [f.text p.console.world.painter] →
      Entered p (some f) (.escaped f.fault, q)

namespace Prompt

variable {p : Prompt}

lemma wrote_display (w : World) (value : Value) : w.Wrote (w.display value) [] := by
  cases value <;> exact .of_same rfl ⟨rfl, rfl⟩ rfl

/-- A complete source. -/
lemma Lenient.complete (h : p.Lenient) (source : String) (number : Nat) :
    Entered p
      (match runSourceText source number p.console with
        | .ok _ _ => none
        | .error fault c => some { fault, report := c.report, prompted := true })
      (complete p.console source number) := by
  obtain ⟨c, pending, mark, lineNumber⟩ := p
  have hwrote := wrote_runSource c.session.settings source c.session.env c.world
  unfold Run.after at hwrote
  cases hrun : runSource c.session.settings source c.session.env c.world with
  | ok value w =>
      rw [hrun] at hwrote
      simp only [complete_of_ok number h.idle hrun, runSourceText_of_ok number h.idle hrun]
      exact .next ⟨h.idle, h.fatal⟩ (hwrote.before (wrote_display w value))
  | error fault w =>
      rw [hrun] at hwrote
      have hpainter : w.painter = c.world.painter := hwrote.painter
      have hreport := hwrote.before (.report w
        ((c.report.registerLine c.session.path source number).text
          c.world.painter fault.diagnosis))
      have hcases := complete_of_error number h.idle h.fatal hrun
      simp only [runSourceText_of_error number h.idle hrun]
      rw [hpainter] at hcases
      rcases hcases with ⟨hstray, heq⟩ | ⟨hstray, r', heq⟩ | ⟨hstray, heq⟩
      · rw [heq]
        exact .reported ⟨h.idle, h.fatal⟩ hstray hreport
      · rw [heq]
        exact .exit hstray hreport
      · rw [heq]
        exact .escaped hstray rfl rfl hreport

/-- **One line at the prompt.** -/
theorem Lenient.enter (h : p.Lenient) (line : List Char) :
    Entered p (p.failure? line) (p.enter line) := by
  unfold failure? Prompt.enter
  cases command line with
  | nothing => exact .next h (.refl _)
  | help => exact .next ⟨h.idle, h.fatal⟩ (.of_same rfl ⟨rfl, rfl⟩ rfl)
  | leave => exact .stop (.refl _)
  | endOfInput => exact .stop (.of_same rfl ⟨rfl, rfl⟩ rfl)
  | source line =>
      simp only [enterSource]
      split_ifs with hopen
      · exact .next ⟨h.idle, h.fatal⟩ (.refl _)
      · exact h.complete _ _

/-- Reading a line touches the input only. -/
lemma readLine_spec (p : Prompt) : (p.readLine.2.console.session = p.console.session ∧
    p.readLine.2.console.report = p.console.report) ∧
      p.console.world.Wrote p.readLine.2.console.world [] := by
  unfold readLine
  rcases p.console.world.input.readLine with ⟨(fault | _ | ⟨c, line⟩), input⟩ <;>
    exact ⟨⟨rfl, rfl⟩, .of_same rfl ⟨rfl, rfl⟩ rfl⟩

/-- The end of the program once the prompt has been left. -/
def depart : Reply × Prompt → Departure × World
  | (.next, p) | (.stop, p) => (.returned, p.console.world)
  | (.exit code, p) => (.exit code, p.console.world)
  | (.escaped fault, p) =>
    Host.settle { world := p.console.world, report := p.console.report } fault

/-- **Any number of turns at the prompt.**  The induction is on the turns; each turn is a line
entered at a prompt that is lenient. -/
theorem Lenient.turns (turns : Nat) : ∀ {p : Prompt}, p.Lenient →
    p.console.world.Wrote (depart (turnsFrom turns p)).2
      ((failuresFrom turns p).flatMap
        (Failure.reports p.console.world.painter)) := by
  induction turns with
  | zero => exact fun {p} _ => .refl p.console.world
  | succ turns ih =>
      intro p h
      simp only [turnsFrom, failuresFrom, turn]
      obtain ⟨⟨hsession, hreport⟩, hread⟩ := (p.print p.mark).readLine_spec
      generalize (p.print p.mark).readLine = read at hsession hreport hread ⊢
      obtain ⟨line, q⟩ := read
      have hq : q.Lenient := ⟨hsession ▸ h.idle, hreport ▸ h.fatal⟩
      have hprint : p.console.world.Wrote (p.print p.mark).console.world [] :=
        .of_same rfl ⟨rfl, rfl⟩ rfl
      have hread : p.console.world.Wrote q.console.world [] := hprint.before hread
      rw [← hread.painter]
      refine hread.before ?_
      cases line with
      | error fault =>
          have hsettle := Host.wrote_settle
            { world := q.console.world, report := q.console.report } (.stray fault.stray)
          simpa [Failure.reports, Failure.text, depart] using hsettle
      | ok line =>
          have hentered := hq.enter line
          simp only
          generalize q.failure? line = failure at hentered ⊢
          generalize q.enter line = outcome at hentered ⊢
          cases hentered with
          | next hnext hwrote =>
              rw [← hwrote.painter]
              exact hwrote.before (ih hnext)
          | stop hwrote => exact hwrote
          | reported hnext hstray hwrote =>
              have hlater := hwrote.trans (ih hnext)
              rw [hwrote.painter] at hlater
              simpa [Failure.reports, hstray] using hlater
          | exit hstray hwrote => simpa [Failure.reports, hstray, depart] using hwrote
          | @escaped next f hstray hprompted hcleared hwrote =>
              have hagain := Host.wrote_settle
                { world := next.console.world, report := next.console.report } f.fault
              have hboth := hwrote.trans hagain
              simp only [hwrote.painter] at hboth
              simpa [Failure.reports, hstray, hprompted, hcleared, depart] using hboth

end Prompt

/-! ## The program -/

/-- Everything the prompt writes to standard error is a report on one of its failures. -/
lemma Host.wrote_prompt (h : Host) (s : Settings) :
    h.world.Wrote (h.prompt s).2
      ((h.promptFailures s).flatMap (Failure.reports h.world.painter)) := by
  let session : Session := { path := commandLineName, interactive := true, settings := s }
  let report : Report := { h.report.registerFile commandLineName with fatal := false }
  have hstart : Session.start h.world.files h.report 0 s commandLineName true =
      (.ok session, report) := rfl
  let p : Prompt := { console := { world := h.world, report, session } }
  have hlenient : (p.print (Prompt.intro ++ "\n")).Lenient := ⟨⟨rfl, rfl, rfl⟩, rfl⟩
  have hprompt : h.prompt s = Prompt.depart p.loop := by
    simp only [prompt, hstart]
    cases p.loop with
    | mk reply q => cases reply <;> rfl
  have hfailures : h.promptFailures s = Prompt.failuresFrom (h.world.input.size + 1)
      (p.print (Prompt.intro ++ "\n")) := by
    simp only [promptFailures, hstart]
    rfl
  have hprint : h.world.Wrote (p.print (Prompt.intro ++ "\n")).console.world [] :=
    .of_same rfl ⟨rfl, rfl⟩ rfl
  rw [hprompt, hfailures]
  exact hprint.before (hlenient.turns _)

/-- Script files, and the prompt behind them if it is asked for. -/
lemma Host.wrote_paths (s : Settings) (paths : List String) (prompted : Bool) (w : World) :
    w.Wrote
      (match Host.runScripts s paths { world := w } with
        | .error fault host => host.settle fault
        | .ok _ host => if prompted then host.prompt s else (.returned, host.world)).2
      ((match Host.runScripts s paths { world := w } with
        | .error fault host => [({ fault, report := host.report } : Failure)]
        | .ok _ host => if prompted then host.promptFailures s else []).flatMap
          (Failure.reports w.painter)) := by
  have hpaths := wrote_runScripts s paths { world := w }
  generalize Host.runScripts s paths { world := w } = r at hpaths ⊢
  rw [← show (finalState r).world.painter = w.painter from hpaths.painter]
  cases r with
  | error fault host =>
      simpa [Failure.reports, Failure.text, finalState] using hpaths.before (host.wrote_settle fault)
  | ok _ host =>
      cases prompted with
      | true => exact hpaths.before (host.wrote_prompt s)
      | false => exact hpaths

lemma wrote_scriptCommand (o : Options) (w : World) :
    w.Wrote (scriptCommand o w).2
      ((scriptFailures o w).flatMap (Failure.reports w.painter)) := by
  have hstart : w.Wrote
      { w with arena := Arena.default.bindHostValues o.scriptArgs w.environ } [] :=
    .of_same rfl ⟨rfl, rfl⟩ rfl
  refine hstart.before ?_
  rw [← hstart.painter]
  simp only [scriptCommand, scriptFailures]
  generalize ({ w with arena := Arena.default.bindHostValues o.scriptArgs w.environ } : World) =
    start
  cases w.files.expand o.files with
  | none => exact Host.wrote_settle { world := start } (.stray .nullByte)
  | some paths => exact Host.wrote_paths _ paths (paths.isEmpty || o.interactive) start

/-- **How often a failure is reported.**  Let arguments ask for a run of script files or of the
prompt.  Then what the run writes to standard error is, but for the steps that are traced on
request, exactly one report for each of its failures, in order; only a stray that comes up at the
prompt, and so ends the run, is reported a second time. -/
theorem commandLine_reports {arguments : List String} {o : Options}
    (ho : Invocation.ofArguments arguments = .run o) (htest : o.testDirectory = none) (w : World) :
    ∃ log, (commandLine arguments w).2.errors = w.errors ++ log ∧
      Logged o.verbose ((scriptFailures o { w with verbose := o.verbose }).flatMap
        (Failure.reports w.painter)) log := by
  let start : World := { w with verbose := o.verbose }
  have hrun : commandLine arguments w = scriptCommand o start := by
    simp only [commandLine, ho, htest, start]
  rw [hrun]
  exact (wrote_scriptCommand o start).errors

/-- Two errors of the language at the prompt, and a source that succeeds between them. -/
theorem commandLine_reports_errors :
    let w : World := { input := "(car 1)\n(+ 1 2)\nunbound\n".toList }
    let failures := scriptFailures {} w
    (Invocation.ofArguments [] = .run {} ∧
      failures.map (fun f => (f.fault.message, f.prompted, f.fault.isStray)) =
        [("'car' expects list, got Integer(value=1)", true, false),
          ("symbol not found: 'unbound'", true, false)]) ∧
    ∃ log, (commandLine [] w).2.errors = w.errors ++ log ∧
      Logged false (failures.flatMap (Failure.reports false)) log := by
  intro w failures
  have harguments : Invocation.ofArguments [] = .run {} := rfl
  refine ⟨⟨harguments, by decide +kernel⟩, ?_⟩
  exact commandLine_reports harguments rfl w

/-- A stray at the prompt is reported twice: it is not true that each failure is reported exactly
once. -/
theorem commandLine_reports_twice :
    ¬∀ (arguments : List String) (o : Options) (w : World),
      Invocation.ofArguments arguments = .run o → o.testDirectory = none →
      ∃ log, (commandLine arguments w).2.errors = w.errors ++ log ∧
        Logged o.verbose ((scriptFailures o { w with verbose := o.verbose }).map
          (Failure.text w.painter)) log := by
  intro h
  let w : World := { input := "(read-file \"\x00\")\n".toList }
  obtain ⟨log, hlog, hlogged⟩ := h [] {} w rfl rfl
  have honce : (commandLine [] w).2.errors =
      String.join ((scriptFailures {} w).map (Failure.text false)) := by
    rw [hlog, String.empty_append]
    exact Logged.eq_join hlogged
  exact absurd honce (by decide +kernel)

end ArenaLisp
