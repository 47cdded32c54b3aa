import ArenaLisp.Proofs.Discipline
import ArenaLisp.Proofs.Revisions

/-!
# Scripts that cannot reach the files

The files can be reached in three ways: by the special form that includes a script, by the builtin
that reads a file and by the one that runs a command.  The form is there only if the settings grant
it, and a builtin can be called only where a scope binds it.  So a host shuts scripts off from the
files by withholding the form and binding the two names to something else.

That this is enough rests on what scripts cannot do.  Evaluating the name of a builtin gives a
reference, which is a name and no more, and only values are ever bound.  So a builtin that no scope
binds stays away for good.

* `Builtin.reachesFiles`, `Arena.Sealed` — the two builtins, and the arenas without them.
* `Job`, `outcomes`, `momentsOf` — sources that are run one after the other, and what comes of them.
* **`outcomes_withFiles`** — in a sealed arena nothing depends on the files, and the arena stays
  sealed.
-/

namespace ArenaLisp

/-- A builtin that looks at the files or changes them. -/
def Builtin.reachesFiles (b : Builtin) : Bool :=
  b.operation = .unary .readFile || b.operation = .unary .system

/-- A binding to a builtin that reaches the files.  A reference to one is a name and no builtin. -/
def Binding.reachesFiles : Binding → Bool
  | .builtin b => b.reachesFiles
  | .constant _ => false

/-- No scope of the arena binds a builtin that reaches the files. -/
def Arena.Sealed (a : Arena) : Prop := a.Entries fun _ entry => entry.2.reachesFiles = false

/-- The world with other files. -/
def World.withFiles (w : World) (files : FileTree) : World := { w with files }

instance (a : Arena) : Decidable a.Sealed :=
  decidable_of_iff
    (∀ sc ∈ a.scopes.toList, ∀ entry ∈ sc.bindings, entry.2.reachesFiles = false) <| by
    constructor
    · intro h i sc hs
      exact h sc (Array.mem_toList_iff.mpr (Array.mem_of_getElem? hs))
    · intro h sc hsc
      obtain ⟨i, hs⟩ := Array.mem_iff_getElem?.mp (Array.mem_toList_iff.mp hsc)
      exact h i sc hs

/-! ## Other files -/

/-- Other files, seen from a sealed arena. -/
def Revision.otherFiles (files : FileTree) : Revision where
  change w := w.withFiles files
  holds w := w.arena.Sealed
  builtins b := b.reachesFiles = false

/-- Without the form that includes scripts, the primitive steps do not look at the files. -/
theorem Revision.otherFiles_laws (files : FileTree) {s : Settings} (hs : s.hasInclude = false) :
    (Revision.otherFiles files).Laws s where
  arena _ _ := rfl
  found hw hl := by
    obtain ⟨_, hsealed⟩ := Arena.Entries.lookup hw hl
    exact hsealed
  define _ _ _ hw := Arena.Entries.insert hw rfl
  capture h hw := Arena.Entries.capture hw h
  child h hw := Arena.Entries.child hw h
  release h hw := Arena.Entries.release hw h
  log tracer message w hw := by
    have harena : (w.trace tracer message).arena = w.arena := World.trace_arena w tracer message
    have htrace : (w.withFiles files).trace tracer message =
        (w.trace tracer message).withFiles files := by
      by_cases hverbose : w.verbose <;> simp [World.trace, World.withFiles, hverbose]
    exact ⟨congrArg (EStateM.Result.ok ()) htrace, show Arena.Sealed _ from harena ▸ hw⟩
  print _ _ hw := ⟨rfl, hw⟩
  readLine _ hw := ⟨rfl, hw⟩
  readText h := by
    rcases h with hinclude | ⟨b, hb, hop⟩
    · simp [hs] at hinclude
    · simp [Revision.otherFiles, Builtin.reachesFiles, hop] at hb
  system h := by
    obtain ⟨b, hb, hop⟩ := h
    simp [Revision.otherFiles, Builtin.reachesFiles, hop] at hb

/-! ## Sealed for good -/

/-- The arena is sealed; anything may be said of values. -/
def Discipline.seals : Discipline where
  arenas := Arena.Sealed
  values _ := True
  nodes _ := True
  granted _ := True

lemma Discipline.seals_laws : Discipline.seals.Laws where
  unit := trivial
  reference _ := trivial
  literal _ := trivial
  lambda := ⟨fun _ => ⟨fun _ _ => trivial, fun _ _ => trivial⟩, fun _ => trivial⟩
  symbol _ := trivial
  items _ _ _ := trivial
  parsed _ _ _ := trivial
  apply _ := (Builtin.yields _ _ _).imp fun _ _ => trivial
  found _ _ := trivial
  define _ _ ha _ := Arena.Entries.insert ha rfl
  capture h ha := Arena.Entries.capture ha h
  child h ha := Arena.Entries.child ha h
  release h ha := Arena.Entries.release ha h

/-! ## Sources run one after the other -/

/-- A source to be run in the scope of a handle, with evaluations nested at most `depth` deep. -/
structure Job where
  settings : Settings
  depth : Nat := settings.stack.depth
  source : String
  env : Handle

namespace Job

def run (job : Job) : Run Value :=
  runWith (evaluateWith job.settings reclaimFrame job.depth) job.source job.env

/-- The moments that a job goes through. -/
def moments (job : Job) (w : World) : List Moment :=
  (Journal.runWith (Journal.evaluateWith job.settings job.depth) job.source job.env).moments w

/-- A job in a sealed arena goes the same way with other files. -/
lemma run_withFiles {job : Job} (hjob : job.settings.hasInclude = false) {w : World}
    (hw : w.arena.Sealed) (files : FileTree) :
    job.run (w.withFiles files) = changed (·.withFiles files) (job.run w) :=
  ((Revision.otherFiles_laws files hjob).runWith job.depth job.source job.env w hw).1

/-- A job in a sealed arena leaves it sealed, at its end and at every moment on the way. -/
lemma keeps_sealed (job : Job) {w : World} (hw : w.arena.Sealed) :
    (job.run.after w).arena.Sealed ∧ ∀ m ∈ job.moments w, m.arena.Sealed := by
  have hends : Discipline.seals.Ends (fun _ => True) (job.run w) (job.moments w) :=
    Discipline.seals_laws.ends_run job.settings job.depth job.source job.env hw
      fun _ _ _ _ => trivial
  unfold Run.after
  generalize job.run w = r at hends ⊢
  cases hends with
  | ok hm hw' _ => exact ⟨hw', fun m hmem => (hm m hmem).1⟩
  | error hm hw' _ => exact ⟨hw', fun m hmem => (hm m hmem).1⟩

end Job

/-- What comes of jobs that are run one after the other, whether they end in values or in faults. -/
def outcomes : List Job → World → List (EStateM.Result Fault World Value)
  | [], _ => []
  | job :: rest, w => job.run w :: outcomes rest (job.run.after w)

/-- The moments that jobs go through. -/
def momentsOf : List Job → World → List Moment
  | [], _ => []
  | job :: rest, w => job.moments w ++ momentsOf rest (job.run.after w)

lemma after_changed {change : World → World} {x : Run α} {w w' : World}
    (h : x w' = changed change (x w)) : x.after w' = change (x.after w) := by
  unfold Run.after
  rw [h]
  cases x w <;> rfl

/-- **Scripts that are shut off from the files.**  Let no scope of an arena bind a builtin that
reaches the files, and let sources be run in it one after the other, in any scopes, under settings
that do not grant the form that includes scripts.  With other files each of them comes to the same
value or fault, and leaves the same world behind but for the files: the same arena, the same text
printed, the same input unread.  At no moment does a scope bind such a builtin again. -/
theorem outcomes_withFiles (jobs : List Job)
    (hjobs : ∀ job ∈ jobs, job.settings.hasInclude = false) (w : World) (hw : w.arena.Sealed) :
    (∀ files, outcomes jobs (w.withFiles files) =
      (outcomes jobs w).map (changed (·.withFiles files))) ∧
    ∀ m ∈ momentsOf jobs w, m.arena.Sealed := by
  induction jobs generalizing w with
  | nil => simp [outcomes, momentsOf]
  | cons job rest ih =>
      obtain ⟨hjob, hrest⟩ := List.forall_mem_cons.mp hjobs
      obtain ⟨hafter, hmoments⟩ := job.keeps_sealed hw
      obtain ⟨hsame, hlater⟩ := ih hrest _ hafter
      refine ⟨fun files => ?_, List.forall_mem_append.mpr ⟨hmoments, hlater⟩⟩
      have hrun := job.run_withFiles hjob hw files
      simp only [outcomes, List.map_cons]
      rw [hrun, after_changed hrun, hsame]

/-- Both names are bound to a number, and neither a lambda, a source that is evaluated, a new
definition nor the form that is not granted brings a file back. -/
theorem outcomes_withFiles_shadowed :
    let host : World := { arena := Arena.default }
    let w := (runSource {} "(define read-file 0) (define system 0)" 0).after host
    let settings : Settings := { scoping := .lexical, hasInclude := false }
    let jobs : List Job := [
      ⟨settings, 20, "(define r read-file) (list r system)", 0⟩,
      ⟨settings, 20, "(define f (lambda (p) (eval \"(read-file p)\"))) (f \"a\")", 0⟩,
      ⟨settings, 20, "(include \"a\")", 0⟩]
    ((∀ job ∈ jobs, job.settings.hasInclude = false) ∧ ¬host.arena.Sealed ∧ w.arena.Sealed ∧
      (outcomes jobs w).map (fun
        | .ok v _ => v.text
        | .error fault _ => fault.message) =
        ["(0,0)", "'read-file' expected 0 argument(s), got 1", "proc not found: 'include'"]) ∧
    ∀ files, outcomes jobs (w.withFiles files) =
      (outcomes jobs w).map (changed (·.withFiles files)) := by
  intro host w settings jobs
  refine (and_iff_left_of_imp fun h => (outcomes_withFiles jobs h.1 w h.2.2.1).1).mpr ?_
  decide +kernel

end ArenaLisp
