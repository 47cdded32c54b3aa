import ArenaLisp.Proofs.Encoding
import ArenaLisp.Proofs.Rereading
import ArenaLisp.Proofs.Revisions
import ArenaLisp.Proofs.Scripts
import ArenaLisp.Proofs.Spelling

/-!
# Programs as texts

A program can be given as nodes, in a sequence; as a string, to be evaluated; or as a file, to be
included.  The three ways agree: the nodes of a program, put into a string or into a file as text,
do what they do in a sequence.  They are read back unchanged, and from then on the same evaluation
takes place, one level below the form.

What differs is the steps that are traced, which name the form.  So outcomes are compared without
the text of the trace, and evaluation is shown not to look at it.

* `World.untraced` — a world without what was traced.
* `untraced_runWith` — runs do not look at what was traced.
* **`evaluate_quoted`** — the three ways agree.
-/

namespace ArenaLisp

open Decimal

/-! ## What was traced before does not matter -/

/-- A world without the text on standard error, which is where steps are traced. -/
def World.untraced (w : World) : World := { w with errors := "" }

/-- A world in which a text was traced before all others. -/
def World.tracedBefore (text : String) (w : World) : World := { w with errors := text ++ w.errors }

lemma World.tracedBefore_untraced (w : World) : w.untraced.tracedBefore w.errors = w := by
  simp [untraced, tracedBefore]

lemma World.untraced_trace (w : World) (tracer : Tracer) (message : Unit → String) :
    (w.trace tracer message).untraced = w.untraced := by
  unfold World.trace
  split_ifs <;> rfl

lemma World.trace_files (w : World) (tracer : Tracer) (message : Unit → String) :
    (w.trace tracer message).files = w.files := by
  unfold World.trace
  split_ifs <;> rfl

/-- A text that was traced before is a change of the world. -/
def Revision.traced (text : String) : Revision where
  change := World.tracedBefore text
  holds _ := True

namespace Revision

variable {α : Type} {text : String}

lemma respected_traced {x : Run α}
    (h : ∀ w : World, x (w.tracedBefore text) = changed (World.tracedBefore text) (x w)) :
    (traced text).Respected x :=
  fun w _ => ⟨h w, trivial⟩

lemma traced_log (tracer : Tracer) (message : Unit → String) :
    (traced text).Respected (Run.log tracer message) := by
  refine respected_traced fun w => ?_
  have htrace : (w.tracedBefore text).trace tracer message =
      (w.trace tracer message).tracedBefore text := by
    unfold World.trace World.tracedBefore
    split_ifs
    · simp only [String.append_assoc]
    · rfl
  exact congrArg (EStateM.Result.ok ()) htrace

lemma traced_inShell (command : String) : (traced text).Respected (inShell command) := by
  refine respected_traced fun w => ?_
  have hsame : (w.tracedBefore text).platform.shell (w.tracedBefore text).files
      (w.tracedBefore text).environ (w.tracedBefore text).input.supplies command =
    w.platform.shell w.files w.environ w.input.supplies command := rfl
  unfold inShell
  rw [hsame]
  cases w.platform.shell w.files w.environ w.input.supplies command with
  | error fault => rfl
  | ok completed =>
      show Run.ofExcept (outputValue completed.output) _ =
        changed _ (Run.ofExcept (outputValue completed.output) _)
      cases outputValue completed.output <;> rfl

lemma traced_runCommand (command : String) : (traced text).Respected (runCommand command) := by
  refine (traced_log _ _).bind fun _ => ?_
  split_ifs
  · exact .throw _
  · exact traced_inShell command

/-- The primitive steps do not look at what was traced. -/
theorem traced_laws (text : String) (s : Settings) : (traced text).Laws s where
  arena _ _ := rfl
  found _ _ := trivial
  define _ _ _ _ := trivial
  capture _ _ := trivial
  child _ _ := trivial
  release _ _ := trivial
  log := traced_log
  print _ := respected_traced fun _ => rfl
  readLine := respected_traced fun _ => rfl
  readText _ path := by
    unfold Run.readText
    split_ifs
    · exact .throw _
    · exact respected_traced fun _ => rfl
  system _ command := traced_runCommand command

end Revision

/-- **Runs do not look at what was traced.** -/
theorem untraced_runWith (s : Settings) (depth : Nat) (source : String) (env : Handle)
    {w w' : World} (h : w.untraced = w'.untraced) :
    changed World.untraced (runWith (evaluateWith s reclaimFrame depth) source env w) =
      changed World.untraced (runWith (evaluateWith s reclaimFrame depth) source env w') := by
  have hforget : ∀ v : World,
      changed World.untraced (runWith (evaluateWith s reclaimFrame depth) source env v) =
        changed World.untraced
          (runWith (evaluateWith s reclaimFrame depth) source env v.untraced) := by
    intro v
    have hrun := ((Revision.traced_laws v.errors s).runWith depth source env v.untraced trivial).1
    rw [show (Revision.traced v.errors).change v.untraced = v from v.tracedBefore_untraced] at hrun
    rw [hrun]
    cases runWith (evaluateWith s reclaimFrame depth) source env v.untraced <;> rfl
  rw [hforget w, hforget w', h]

/-! ## Three forms -/

variable {s : Settings} {env : Handle}

/-- A node that was read from a source. -/
def Node.Parsed (node : Node) : Prop := ∃ source nodes, parse source = .ok nodes ∧ node ∈ nodes

lemma Node.readableAll_of_parsed {nodes : List Node} (h : ∀ node ∈ nodes, node.Parsed) :
    Node.ReadableAll nodes := by
  refine Node.readableAll_iff.mpr fun node hmem => ?_
  obtain ⟨source, parsed, hparse, hin⟩ := h node hmem
  exact Node.readableAll_iff.mp (readable_of_parse hparse) node hin

/-- An outcome with unit in place of its value. -/
def withoutValue : EStateM.Result Fault World Value → EStateM.Result Fault World Value
  | .ok _ w => .ok .unit w
  | .error fault w => .error fault w

lemma changed_withoutValue (change : World → World) (r : EStateM.Result Fault World Value) :
    changed change (withoutValue r) = withoutValue (changed change r) := by
  cases r <;> rfl

lemma bind_unit_eq (x : Run Value) (w : World) :
    (x >>= fun _ => pure Value.unit) w = withoutValue (x w) := by
  cases hx : x w with
  | ok value w' => exact bind_of_ok hx
  | error fault w' => exact bind_of_error hx

/-- A special form is traced and then does what it does. -/
lemma evaluateWith_form {name : String} {form : SpecialForm} (hform : s.form? name = some form)
    (depth : Nat) (args : List Node) (w : World) :
    evaluateWith s reclaimFrame (depth + 1) (.list (.symbol name :: args)) env w =
      evaluateForm s (evaluateWith s reclaimFrame depth) form args env
        (w.trace .evaluator fun _ => "special form " ++ name) := by
  rw [evaluateWith, evaluateNode, hform]
  rfl

lemma evaluateForm_eval (depth : Nat) (source : String) (w : World) :
    evaluateForm s (evaluateWith s reclaimFrame (depth + 1)) .eval [.literal (.string source)] env
      w = runWith (evaluateWith s reclaimFrame (depth + 1)) source env w :=
  bind_of_ok rfl

lemma evaluateForm_sequence {ev : Evaluation} {nodes : List Node} (hne : nodes ≠ [])
    {source : String} (hparse : parse source = .ok nodes) (w : World) :
    evaluateForm s ev .sequence nodes env w = runWith ev source env w := by
  rw [runWith, hparse]
  cases nodes with
  | nil => exact absurd rfl hne
  | cons node rest => rfl

lemma evaluateForm_inclusion (depth : Nat) {path source : String} {w : World}
    (hpath : path.toList.contains (Char.ofNat 0) = false)
    (hread : w.files.readText path = .ok source.toList) :
    evaluateForm s (evaluateWith s reclaimFrame (depth + 1)) .inclusion [.literal (.string path)]
      env w = withoutValue (runWith (evaluateWith s reclaimFrame (depth + 1)) source env
        (w.trace .evaluator fun _ => "including " ++ path)) := by
  rw [← w.trace_files .evaluator fun _ => "including " ++ path] at hread
  have hsource := readSource_of_readText hpath hread
  rw [String.ofList_toList] at hsource
  rw [← bind_unit_eq]
  exact bind_of_ok hsource

/-- If the stack takes no evaluation inside a form, the form ends in that at once. -/
lemma evaluateWith_shallow {name : String} {form : SpecialForm} (hform : s.form? name = some form)
    {depth : Nat} (hdepth : depth ≤ 1) {args : List Node}
    (hstop : evaluateForm s (evaluateWith s reclaimFrame 0) form args env = throw .recursionLimit)
    (w : World) :
    changed World.untraced (evaluateWith s reclaimFrame depth (.list (.symbol name :: args)) env w) =
      .error .recursionLimit w.untraced := by
  cases depth with
  | zero => rfl
  | succ depth =>
      obtain rfl : depth = 0 := by omega
      rw [evaluateWith_form hform, hstop]
      exact congrArg (EStateM.Result.error Fault.recursionLimit) (w.untraced_trace _ _)

/-- **Programs as nodes, as strings and as files agree.**  Take nodes that were read, with
positional floats, and their texts separated by single spaces.  Evaluating the string with that text
comes to the same as evaluating the nodes in a sequence: the same value or the same fault, and the
same world but for the trace, so the same arena, the same output, and so on.  The same holds for
including a file that holds the text, but for the value, which is unit.  This is so in any scope of
any world, and whatever the program does; nesting counts the same in all three, so that the bound on
it is met in all or in none. -/
theorem evaluate_quoted (heval : s.hasEval = true) (hinclude : s.hasInclude = true)
    {nodes : List Node} (hne : nodes ≠ []) (hparsed : ∀ node ∈ nodes, node.Parsed)
    (hfloats : ∀ x ∈ Node.floatsAll nodes, Positional x) (env : Handle) (w : World) :
    let source := Node.renderAll nodes
    let sequence := evaluate s (.list (.symbol "progn" :: nodes)) env w
    changed World.untraced
        (evaluate s (.list [.symbol "eval", .literal (.string source)]) env w) =
      changed World.untraced sequence ∧
    ∀ path, path.toList.contains (Char.ofNat 0) = false → '\r' ∉ source.toList →
      w.files.read path = .ok (Text.Utf8.encode source.toList) →
      changed World.untraced
          (evaluate s (.list [.symbol "include", .literal (.string path)]) env w) =
        withoutValue (changed World.untraced sequence) := by
  intro source sequence
  have hparse : parse source = .ok nodes :=
    parse_renderAll_of_positional (Node.readableAll_of_parsed hparsed) hfloats
  have hprogn : s.form? "progn" = some .sequence := rfl
  have heval : s.form? "eval" = some .eval := by simp [Settings.form?, heval]
  have hinclude : s.form? "include" = some .inclusion := by simp [Settings.form?, hinclude]
  obtain hshallow | ⟨depth, hdepth⟩ : s.stack.depth ≤ 1 ∨ ∃ depth, s.stack.depth = depth + 2 :=
    (Nat.lt_or_ge 1 s.stack.depth).symm.imp_right fun hdeep => ⟨_, (Nat.sub_add_cancel hdeep).symm⟩
  · -- on a stack that takes no evaluation inside of a form, all three end before anything is read
    have hstop : changed World.untraced sequence = .error .recursionLimit w.untraced := by
      refine evaluateWith_shallow hprogn hshallow ?_ w
      cases nodes with
      | nil => exact absurd rfl hne
      | cons node rest => rfl
    rw [hstop]
    exact ⟨evaluateWith_shallow heval hshallow rfl w,
      fun path _ _ _ => evaluateWith_shallow hinclude hshallow rfl w⟩
  have hevaluate : evaluate s = evaluateWith s reclaimFrame (depth + 2) := by rw [evaluate, hdepth]
  let run := runWith (evaluateWith s reclaimFrame (depth + 1)) source env
  have hsequence : sequence = run (w.trace .evaluator fun _ => "special form progn") := by
    rw [show sequence = evaluate s _ env w from rfl, hevaluate, evaluateWith_form hprogn]
    exact evaluateForm_sequence hne hparse _
  have hrun : ∀ v : World, v.untraced = w.untraced →
      changed World.untraced (run v) = changed World.untraced sequence := by
    intro v hv
    rw [hsequence]
    exact untraced_runWith s _ source env (hv.trans (w.untraced_trace _ _).symm)
  constructor
  · have hstring : evaluate s (.list [.symbol "eval", .literal (.string source)]) env w =
        run (w.trace .evaluator fun _ => "special form eval") := by
      rw [hevaluate, evaluateWith_form heval]
      exact evaluateForm_eval depth source _
    rw [hstring]
    exact hrun _ (w.untraced_trace _ _)
  · intro path hpath hreturn hfile
    let opened := w.trace .evaluator fun _ => "special form include"
    have hread : opened.files.readText path = .ok source.toList := by
      rw [w.trace_files]
      exact FileTree.readText_of_read hfile hreturn
    have hincluded : evaluate s (.list [.symbol "include", .literal (.string path)]) env w =
        withoutValue (run (opened.trace .evaluator fun _ => "including " ++ path)) := by
      rw [hevaluate, evaluateWith_form hinclude]
      exact evaluateForm_inclusion depth hpath hread
    rw [hincluded, changed_withoutValue, hrun _ ?_]
    exact (opened.untraced_trace _ _).trans (w.untraced_trace _ _)

/-- A program that prints a text beyond ASCII and then fails, as a string and as a file. -/
theorem evaluate_quoted_failing :
    let nodes : List Node := [.list [.symbol "print", .literal (.string "é\"\\")],
      .list [.symbol "define", .symbol "x", .literal (.float (-0.5))], .symbol "y"]
    let source := "(print \"é\\\"\\\\\") (define x -0.5) y"
    let w : World := { arena := Arena.default, verbose := true,
                       files := { entries := [(["p"], .file (Text.Utf8.encode source.toList))] } }
    (Node.renderAll nodes = source ∧
      w.files.read "p" = .ok (Text.Utf8.encode source.toList)) ∧
    changed World.untraced
        (evaluate {} (.list [.symbol "eval", .literal (.string source)]) 0 w) =
      changed World.untraced (evaluate {} (.list (.symbol "progn" :: nodes)) 0 w) ∧
    changed World.untraced
        (evaluate {} (.list [.symbol "include", .literal (.string "p")]) 0 w) =
      withoutValue (changed World.untraced
        (evaluate {} (.list (.symbol "progn" :: nodes)) 0 w)) := by
  intro nodes source w
  have hparse : parse source = .ok nodes := by
    unfold source nodes
    rfl
  have hrender : Node.renderAll nodes = source := by decide +kernel
  have hfile : w.files.read "p" = .ok (Text.Utf8.encode source.toList) := by decide +kernel
  have hreturn : '\r' ∉ source.toList := by decide +kernel
  have hne : nodes ≠ [] := by simp [nodes]
  obtain ⟨hstring, hincluded⟩ := evaluate_quoted (s := {}) rfl rfl hne
    (fun node hmem => ⟨source, nodes, hparse, hmem⟩) (by decide +kernel) 0 w
  rw [hrender] at hstring hincluded
  exact ⟨⟨hrender, hfile⟩, hstring, hincluded "p" rfl hreturn hfile⟩

end ArenaLisp
