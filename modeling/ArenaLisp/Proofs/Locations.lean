import ArenaLisp.Proofs.Failures
import ArenaLisp.Proofs.Queue

/-!
# Where a script file failed

The program runs script files one after the other.  Each is cut into sources when its turn comes,
and the sources are run one by one.  The first failure ends the program.  If it comes from a source,
its report shows one place: the file, the number of the line at which the source starts, and the
source.  Everything before that source has been evaluated, and nothing behind it.

* `Evaluated`, `Completed` — sources and script files that were run to their end.
* `Host.RanScript`, `Host.ran_runScript` — what a script file comes to.
* `Report.Cleared.text_registerLine` — the report of a failure of the only source that is being run.
* `ScriptsEnd` — the ways in which a run of script files can end.
* **`Host.scriptsEnd_runScripts`** — there are no others.
-/

namespace ArenaLisp

/-! ## Sources and script files -/

/-- The entry that a queue has for a source of a script file. -/
def Source.entry (s : Source) : Int × String := (s.line, String.ofList s.text)

/-- From one world to another, sources of a script file were run in the root scope, in order, and
each of them to its end. -/
def Evaluated (s : Settings) (w : World) (done : List Source) (w' : World) : Prop :=
  ∃ trials : List Trial, done.map Source.entry = trials.map Trial.entry ∧
    (∀ t ∈ trials, t.value?.isSome) ∧ Tried s 0 w trials w'

/-- From one world to another, script files were run in order, and each of them to its end.  A file
is read when its turn comes. -/
inductive Completed (s : Settings) : World → List String → World → Prop where
  | nil (w : World) : Completed s w [] w
  | cons {w w₁ w' : World} {path : String} {rest : List String} {text : List Char} :
      w.files.readText path = .ok text → Evaluated s w (sources text) w₁ →
      Completed s w₁ rest w' → Completed s w (path :: rest) w'

section Tried

variable {s : Settings} {env : Handle} {w w' : World} {trials later : List Trial}

lemma Tried.split (h : Tried s env w (trials ++ later) w') :
    ∃ w₁, Tried s env w trials w₁ ∧ Tried s env w₁ later w' := by
  induction trials generalizing w with
  | nil => exact ⟨w, .nil w, h⟩
  | cons t trials ih =>
      cases h with
      | cons line source h =>
          obtain ⟨w₁, hfirst, hlater⟩ := ih h
          exact ⟨w₁, .cons line source hfirst, hlater⟩

/-- Sources that are tried report nothing by themselves. -/
lemma Tried.wrote (h : Tried s env w trials w') : w.Wrote w' [] := by
  induction h with
  | nil w => exact .refl w
  | cons line source _ ih => exact (wrote_runSource s source env _).before ih

lemma Evaluated.wrote {done : List Source} (h : Evaluated s w done w') : w.Wrote w' [] := by
  obtain ⟨_, -, -, htried⟩ := h
  exact htried.wrote

/-- The trials of a script file up to one that fails, as sources of the file. -/
lemma exists_failing {all : List Source} {failing : Trial} {rest : List (Int × String)}
    {fault : Fault} (hall : all.map Source.entry = trials.map Trial.entry ++ failing.entry :: rest)
    (hvalues : ∀ t ∈ trials, t.value?.isSome) (hfailing : failing.outcome = .error fault w')
    (htried : Tried s 0 w (trials ++ [failing]) w') :
    ∃ done source behind w₁, all = done ++ source :: behind ∧ source.entry = failing.entry ∧
      Evaluated s w done w₁ ∧ runSource s (String.ofList source.text) 0 w₁ = .error fault w' := by
  obtain ⟨done, others, rfl, hdone, hothers⟩ := List.map_eq_append_iff.mp hall
  obtain ⟨source, behind, rfl, hsource, -⟩ := List.map_eq_cons_iff.mp hothers
  obtain ⟨w₁, hbefore, hlast⟩ := htried.split
  refine ⟨done, source, behind, w₁, rfl, hsource, ⟨trials, hdone, hvalues, hbefore⟩, ?_⟩
  cases hlast with
  | cons line text _ =>
      rw [show String.ofList source.text = text from congrArg Prod.snd hsource]
      exact hfailing

end Tried

/-! ## One script file -/

/-- A script file on which no session can be opened. -/
def Session.Refused (files : FileTree) (path : String) (fault : Fault) : Prop :=
  if path = commandLineName then fault = .session .reservedName
  else Session.load files path = .error fault

/-- A session on a script file enters its path, whether it can be opened or not. -/
lemma Session.start_cases (files : FileTree) (r : Report) (env : Handle) (s : Settings)
    (path : String) :
    (∃ fault, Refused files path fault ∧
      start files r env s path false = (.error fault, r.registerFile path)) ∨
    ∃ text, files.readText path = .ok text ∧
      start files r env s path false =
        (.ok { path, env, settings := s, queue := (sources text).map Source.entry },
          r.registerFile path) := by
  by_cases hpath : path = commandLineName
  · exact Or.inl ⟨_, by rw [Refused, if_pos hpath], by simp [start, hpath]⟩
  · have hrefused : ∀ {fault}, load files path = .error fault → Refused files path fault ∧
        start files r env s path false = (.error fault, r.registerFile path) := by
      intro fault hload
      exact ⟨by rwa [Refused, if_neg hpath], by simp [start, hpath, hload]⟩
    by_cases hnull : path.toList.contains (Char.ofNat 0) = true
    · exact Or.inl ⟨_, hrefused (by rw [load, if_pos hnull])⟩
    · cases htext : files.readText path with
      | error problem => exact Or.inl ⟨_, hrefused (by rw [load, if_neg hnull, htext])⟩
      | ok text =>
          rw [Bool.not_eq_true] at hnull
          exact Or.inr ⟨text, rfl, start_script s env r hpath hnull htext⟩

lemma Report.registerLine_registerFile (r : Report) (path source : String) (line : Int) :
    (r.registerFile path).registerLine path source line = r.registerLine path source line := by
  simp [registerFile, registerLine, Ordered.put_put]

/-- **What a script file comes to**: no session can be opened on it, or all of its sources are
evaluated, or those up to the first that fails, which then stands in the report. -/
inductive Host.RanScript (s : Settings) (path : String) (h : Host) :
    EStateM.Result Fault Host Unit → Prop where
  | unopened {fault : Fault} : Session.Refused h.world.files path fault →
      RanScript s path h (.error fault ⟨h.world, h.report.registerFile path⟩)
  | finished {text : List Char} {w' : World} :
      h.world.files.readText path = .ok text → Evaluated s h.world (sources text) w' →
      RanScript s path h (.ok () ⟨w', h.report.registerFile path⟩)
  | raised {text : List Char} {done behind : List Source} {source : Source} {fault : Fault}
      {w₁ w' : World} :
      h.world.files.readText path = .ok text → sources text = done ++ source :: behind →
      Evaluated s h.world done w₁ →
      runSource s (String.ofList source.text) 0 w₁ = .error fault w' →
      RanScript s path h
        (.error fault ⟨w', h.report.registerLine path (String.ofList source.text) source.line⟩)

/-- The host that a session leaves behind. -/
def Host.ofRun : EStateM.Result Fault Console Unit → EStateM.Result Fault Host Unit
  | .ok _ c => .ok () ⟨c.world, c.report⟩
  | .error fault c => .error fault ⟨c.world, c.report⟩

lemma Host.runScript_of_start {s : Settings} {path : String} {h : Host} {session : Session}
    {report : Report}
    (hstart : Session.start h.world.files h.report 0 s path false = (.ok session, report)) :
    runScript s path h = ofRun (Console.run ⟨h.world, report, session⟩) := by
  simp only [runScript, hstart]
  cases Console.run ⟨h.world, report, session⟩ <;> rfl

/-- **One script file.** -/
theorem Host.ran_runScript (s : Settings) (path : String) (h : Host) :
    RanScript s path h (runScript s path h) := by
  rcases Session.start_cases h.world.files h.report 0 s path with
    ⟨fault, hrefused, hstart⟩ | ⟨text, htext, hstart⟩
  · rw [runScript, hstart]
    exact .unopened hrefused
  · let session : Session := { path, settings := s, queue := (sources text).map Source.entry }
    let c : Console := ⟨h.world, h.report.registerFile path, session⟩
    obtain ⟨trials, hran⟩ := Console.ran_runAll session.queue c
    rw [runScript_of_start hstart]
    generalize hr : Console.runAll session.queue c = r at hran
    cases hran with
    | @finished _ c' hqueue hvalues htried _ hreport =>
        have hsame : c'.report = h.report.registerFile path := by
          rcases hreport with hreport | hreport
          · exact hreport
          · simpa [c, session, Report.registerFile, Ordered.put_put] using hreport
        rw [Console.run_of_runAll_ok (c := c) hr]
        show RanScript s path h (.ok () ⟨c'.world, c'.report⟩)
        rw [hsame]
        exact .finished htext ⟨trials, hqueue, hvalues, htried⟩
    | @raised trials failing rest fault c' hqueue hvalues hfailing htried _ hreport =>
        obtain ⟨done, source, behind, w₁, hsources, hentry, hdone, hrun⟩ :=
          exists_failing hqueue hvalues hfailing htried
        obtain ⟨hline, htextual⟩ := Prod.ext_iff.mp hentry
        rw [Console.run_of_runAll_error (c := c) hr, ofRun, hreport,
          Report.registerLine_registerFile, ← show _ = failing.line from hline,
          ← show _ = failing.source from htextual]
        exact .raised htext hsources hdone hrun

/-! ## The report -/

section Table

variable {κ α β : Type} {f : κ × Option α → Option β} {t : Ordered κ (Option α)}

lemma Ordered.filterMap_of_cleared (hf : ∀ key, f (key, none) = none)
    (ht : ∀ entry ∈ t, entry.2 = none) : t.filterMap f = [] := by
  rw [List.filterMap_eq_nil_iff]
  rintro ⟨key, value⟩ hmem
  obtain rfl : value = none := ht _ hmem
  exact hf key

/-- In a table that holds nothing, a value that is written is the only one. -/
lemma Ordered.filterMap_put [DecidableEq κ] (hf : ∀ key, f (key, none) = none)
    (ht : ∀ entry ∈ t, entry.2 = none) (key : κ) (value : Option α) :
    (put key value t).filterMap f = (f (key, value)).toList := by
  induction t with
  | nil => cases hvalue : f (key, value) <;> simp [put, hvalue]
  | cons first rest ih =>
      obtain ⟨hfirst, hrest⟩ := List.forall_mem_cons.mp ht
      obtain ⟨other, old⟩ := first
      obtain rfl : old = none := hfirst
      by_cases hkey : other = key
      · cases hvalue : f (key, value) <;> simp [put, hkey, hvalue, filterMap_of_cleared hf hrest]
      · simp [put, hkey, hf, ih hrest]

end Table

namespace Report

/-- What a failure is, without its place. -/
def messageText (painter : Painter) (d : Diagnostic) : String :=
  (if d.internal then painter.paint (some .red) "[internal] " else "") ++
    painter.paint (some .red) "error: " ++ d.painted painter ++ "\n"

variable {r : Report}

/-- If no source is being run, a report shows no place. -/
lemma Cleared.text (h : r.Cleared) (painter : Painter) (d : Diagnostic) :
    r.text painter d = messageText painter d := by
  have hplaces : r.places = [] := Ordered.filterMap_of_cleared (fun _ => rfl) h
  simp [Report.text, messageText, hplaces, String.append_assoc]

/-- **The report of a failure of the only source that is being run** shows that source alone, under
no title. -/
lemma Cleared.text_registerLine (h : r.Cleared) (path : String) {source : String}
    (hsource : source ≠ "") (line : Int) (painter : Painter) (d : Diagnostic) :
    (r.registerLine path source line).text painter d =
      placeText (path, source, line) ++ messageText painter d := by
  have hplaces : (r.registerLine path source line).places = [(path, source, line)] := by
    rw [places, registerLine, Ordered.filterMap_put (fun _ => rfl) h]
    simp [hsource]
  simp [Report.text, messageText, hplaces, String.append_assoc]

/-- What becomes of a fault where failures are fatal. -/
lemma handle_of_fatal (h : r.fatal = true) (painter : Painter) (fault : Fault) :
    r.handle painter fault.incident = (r.text painter fault.diagnosis, .exit 1, r) := by
  obtain ⟨fatal, traceback⟩ := r
  obtain rfl : fatal = true := h
  unfold Fault.diagnosis
  rcases fault.incident_cases with hf | ⟨d, hf⟩ | ⟨label, message, hf⟩ <;> rw [hf] <;> rfl

end Report

lemma Host.settle_of_fatal {h : Host} (hfatal : h.report.fatal = true) (fault : Fault) :
    h.settle fault = (.exit 1, { h.world with
      errors := h.world.errors ++
        h.report.text h.world.painter fault.diagnosis }) := by
  rw [settle, Report.handle_of_fatal hfatal]

/-! ## All script files -/

/-- **The ways in which a run of script files can end.**  All are run to their end; or no session
can be opened on one of them, which is reported without a place; or one of its sources fails, which
is reported with the place of that source.  Nothing else is reported, and nothing is run after the
failure. -/
inductive ScriptsEnd (s : Settings) (w : World) (paths : List String) :
    Departure × World → Prop where
  | completed {w' : World} : Completed s w paths w' → w.Wrote w' [] →
      ScriptsEnd s w paths (.returned, w')
  | unopened {before behind : List String} {path : String} {w' : World} {fault : Fault} :
      paths = before ++ path :: behind → Completed s w before w' → w.Wrote w' [] →
      Session.Refused w'.files path fault →
      ScriptsEnd s w paths (.exit 1, { w' with
        errors := w'.errors ++ Report.messageText w'.painter fault.diagnosis })
  | failed {before behind : List String} {path : String} {w₁ w₂ w' : World} {text : List Char}
      {done rest : List Source} {source : Source} {further : List (List Char)} {fault : Fault} :
      paths = before ++ path :: behind → Completed s w before w₁ →
      w₁.files.readText path = .ok text → sources text = done ++ source :: rest →
      source.Spans (Text.lines text) further →
      Evaluated s w₁ done w₂ → runSource s (String.ofList source.text) 0 w₂ = .error fault w' →
      w.Wrote w' [] →
      ScriptsEnd s w paths (.exit 1, { w' with
        errors := w'.errors ++ (Report.placeText (path, String.ofList source.text, source.line) ++
          Report.messageText w'.painter fault.diagnosis) })

variable {s : Settings}

/-- A script file that is run to its end, in front of others. -/
lemma ScriptsEnd.cons {w w₁ : World} {path : String} {rest : List String} {text : List Char}
    {result : Departure × World} (htext : w.files.readText path = .ok text)
    (hdone : Evaluated s w (sources text) w₁) (h : ScriptsEnd s w₁ rest result) :
    ScriptsEnd s w (path :: rest) result := by
  cases h with
  | completed hcompleted hwrote =>
      exact .completed (.cons htext hdone hcompleted) (hdone.wrote.before hwrote)
  | @unopened before behind next _ _ hpaths hcompleted hwrote hrefused =>
      have hall : path :: rest = (path :: before) ++ next :: behind := by
        rw [hpaths, List.cons_append]
      exact .unopened hall (.cons htext hdone hcompleted) (hdone.wrote.before hwrote) hrefused
  | @failed before behind next _ _ _ _ _ _ _ _ _ hpaths hcompleted htext' hsources hspans hbefore
      hrun hwrote =>
      have hall : path :: rest = (path :: before) ++ next :: behind := by
        rw [hpaths, List.cons_append]
      exact .failed hall (.cons htext hdone hcompleted) htext' hsources hspans hbefore hrun
        (hdone.wrote.before hwrote)

namespace Host

/-- How the program goes on after its script files: with the host that they leave behind, or with a
report. -/
def conclude : EStateM.Result Fault Host Unit → Departure × World
  | .ok _ h => (.returned, h.world)
  | .error fault h => h.settle fault

/-- **Any script files.**  The induction is on the files.  Between two of them failures are fatal
and no source is being run. -/
theorem scriptsEnd_runScripts (s : Settings) : ∀ (paths : List String) {h : Host},
    h.report.fatal = true → h.report.Cleared →
    ScriptsEnd s h.world paths (conclude (runScripts s paths h)) := by
  intro paths
  induction paths with
  | nil => exact fun {h} _ _ => .completed (.nil h.world) (.refl h.world)
  | cons path rest ih =>
      intro h hfatal hcleared
      have hfirst : path :: rest = [] ++ path :: rest := rfl
      have hran := ran_runScript s path h
      rw [runScripts]
      generalize hrun : runScript s path h = r at hran
      cases hran with
      | @unopened fault hrefused =>
          have hsettle :=
            settle_of_fatal (h := ⟨h.world, h.report.registerFile path⟩) hfatal fault
          rw [bind_of_error hrun, conclude, hsettle, (hcleared.registerFile path).text]
          exact .unopened hfirst (.nil h.world) (.refl h.world) hrefused
      | finished htext hdone =>
          rw [bind_of_ok hrun]
          exact .cons htext hdone (ih (h := ⟨_, _⟩) hfatal (hcleared.registerFile path))
      | @raised text done behind source fault w₁ w' htext hsources hdone hfault =>
          have hmem : source ∈ sources text := by simp [hsources]
          obtain ⟨further, hspans⟩ := spans_of_mem_sources hmem
          have hsource : String.ofList source.text ≠ "" := by simpa using hspans.text_ne_nil
          have hwrote : w₁.Wrote w' [] := by
            have hsourceWrote := wrote_runSource s (String.ofList source.text) 0 w₁
            rwa [Run.after, hfault] at hsourceWrote
          let report := h.report.registerLine path (String.ofList source.text) source.line
          have hsettle := settle_of_fatal (h := ⟨w', report⟩) hfatal fault
          rw [bind_of_error hrun, conclude, hsettle, hcleared.text_registerLine path hsource]
          exact .failed hfirst (.nil h.world) htext hsources hspans hdone hfault
            (hdone.wrote.before hwrote)

end Host

end ArenaLisp
