import ArenaLisp.Proofs.Coupling
import ArenaLisp.Proofs.Cutting
import ArenaLisp.Proofs.Scopes
import ArenaLisp.Session

/-!
# Scripts in sessions

There are two ways to run a script file.  One reads the whole file and evaluates its forms; the
other opens a session on it, which cuts the file into sources and runs them one by one.  If the file
can be read as a whole, both do the same: they leave the same world behind and end in the same
fault, if in any.

* `Console.EndsLike` — two ways of running that end alike.
* `Session.start_sources` — the queue of a session on a script file.
* `Console.runAll_endsLike` — running sources one by one and running what they hold.
* **`Session.run_endsLike_runFile`** — the two ways to run a script file.
-/

namespace ArenaLisp

/-- A session and a plain run end alike: both in success, or both in the same fault, and in the same
world. -/
def Console.EndsLike :
    EStateM.Result Fault Console Unit → EStateM.Result Fault World Value → Prop
  | .ok _ c, .ok _ w => c.world = w
  | .error fault c, .error fault' w => fault = fault' ∧ c.world = w
  | _, _ => False

/-! ## The queue of a script file -/

lemma Ordered.put_of_not_mem [DecidableEq κ] {key : κ} (value : α) {t : Ordered κ α}
    (h : key ∉ keys t) : put key value t = t ++ [(key, value)] := by
  induction t with
  | nil => rfl
  | cons first rest ih =>
      simp only [keys, List.map_cons, List.mem_cons, not_or] at h
      rw [put, if_neg (Ne.symm h.1), ih h.2]
      rfl

namespace Session

/-- Sources with numbers of their own are queued one behind the other. -/
lemma foldl_add : ∀ (sources : List Source) (session : Session),
    (Ordered.keys session.queue ++ sources.map fun s => (s.line : Int)).Nodup →
      sources.foldl (fun s source => s.add (String.ofList source.text) source.line) session =
        { session with
          queue := session.queue ++
            sources.map fun s => ((s.line : Int), String.ofList s.text) } := by
  intro sources
  induction sources with
  | nil => simp
  | cons source rest ih =>
      intro session h
      have hnew : (source.line : Int) ∉ Ordered.keys session.queue := fun hmem =>
        (List.nodup_append.mp h).2.2 _ hmem _ (by simp) rfl
      have hadd : session.add (String.ofList source.text) source.line =
          { session with
            queue := session.queue ++ [((source.line : Int), String.ofList source.text)] } := by
        rw [add, Ordered.put_of_not_mem _ hnew]
      rw [List.foldl_cons, hadd, ih _ ?_]
      · simp
      · simpa [Ordered.keys] using h

end Session

/-- Reading a file leaves the world alone. -/
lemma Run.readText_of_path {path : String}
    (hnull : path.toList.contains (Char.ofNat 0) = false) (w : World) :
    Run.readText path w = .ok (w.files.readText path) w := by
  unfold Run.readText
  rw [if_neg (by rw [hnull]; exact Bool.false_ne_true)]
  rfl

lemma readSource_of_readText {path : String} {w : World} {text : List Char}
    (hnull : path.toList.contains (Char.ofNat 0) = false)
    (htext : w.files.readText path = .ok text) :
    readSource path w = .ok (String.ofList text) w := by
  rw [readSource, bind_of_ok (Run.readText_of_path hnull w), htext]
  rfl

/-- What it takes to read a script file. -/
lemma readSource_ok {path source : String} {w w' : World}
    (h : readSource path w = .ok source w') :
    path.toList.contains (Char.ofNat 0) = false ∧ w' = w ∧
      ∃ text, w.files.readText path = .ok text ∧ source = String.ofList text := by
  by_cases hnull : path.toList.contains (Char.ofNat 0) = true
  · have hrun : Run.readText path w = .error (.stray .nullByte) w := by
      unfold Run.readText
      rw [if_pos hnull]
      rfl
    rw [readSource, bind_of_error hrun] at h
    cases h
  · rw [Bool.not_eq_true] at hnull
    rw [readSource, bind_of_ok (Run.readText_of_path hnull w)] at h
    cases htext : w.files.readText path with
    | error problem =>
        rw [htext] at h
        cases h
    | ok text =>
        rw [htext] at h
        cases h
        exact ⟨hnull, rfl, text, rfl, rfl⟩

/-- The queue of a session on a script file: its sources, in order. -/
lemma Session.start_sources (interactive : Bool) (s : Settings) (env : Handle) (report : Report)
    {path : String} (hpath : path ≠ commandLineName) {files : FileTree} {text : List Char}
    (hnull : path.toList.contains (Char.ofNat 0) = false)
    (htext : files.readText path = .ok text) :
    Session.start files report env s path interactive =
      (.ok { path, interactive, env, settings := s,
             queue := (sources text).map fun s => ((s.line : Int), String.ofList s.text) },
        if interactive then { report.registerFile path with fatal := false }
        else report.registerFile path) := by
  have hnodup : ((sources text).map fun s => (s.line : Int)).Nodup := by
    have h : (((sources text).map Source.line).map fun n : Nat => (n : Int)).Nodup :=
      List.Pairwise.map _ (fun a b hab heq => hab (Int.ofNat_inj.mp heq)) (nodup_sources_line text)
    rwa [List.map_map] at h
  have hload : Session.load files path = .ok (sources text) := by
    simp only [Session.load, hnull, htext]
    rfl
  simp only [Session.start, hload, if_neg hpath]
  rw [Session.foldl_add _ _ (by simpa [Ordered.keys] using hnodup)]
  simp

lemma Session.start_script (s : Settings) (env : Handle) (report : Report) {path : String}
    (hpath : path ≠ commandLineName) {files : FileTree} {text : List Char}
    (hnull : path.toList.contains (Char.ofNat 0) = false)
    (htext : files.readText path = .ok text) :
    Session.start files report env s path false =
      (.ok { path, env, settings := s,
             queue := (sources text).map fun s => ((s.line : Int), String.ofList s.text) },
        report.registerFile path) :=
  start_sources false s env report hpath hnull htext

/-! ## Running sources one by one -/

section Body

variable {ev : Evaluation} {env : Handle} (later : List Node)

/-- If the first of some nodes succeed, evaluation goes on with the others. -/
lemma evaluateBody_append_ok : ∀ {nodes : List Node} {start value : Value} (last : Value)
    {w w' : World}, evaluateBody ev env start nodes w = .ok value w' →
      ∃ value', evaluateBody ev env last (nodes ++ later) w =
        evaluateBody ev env value' later w' := by
  intro nodes
  induction nodes with
  | nil =>
      intro start value last w w' h
      cases h
      exact ⟨last, rfl⟩
  | cons node rest ih =>
      intro start value last w w' h
      rw [List.cons_append, evaluateBody]
      rw [evaluateBody] at h
      cases hnode : ev node env w with
      | error fault w₁ =>
          rw [bind_of_error hnode] at h
          cases h
      | ok value w₁ =>
          rw [bind_of_ok hnode] at h ⊢
          exact ih value h

/-- If one of the first nodes fails, no other is evaluated. -/
lemma evaluateBody_append_error : ∀ {nodes : List Node} {start : Value} (last : Value)
    {fault : Fault} {w w' : World}, evaluateBody ev env start nodes w = .error fault w' →
      evaluateBody ev env last (nodes ++ later) w = .error fault w' := by
  intro nodes
  induction nodes with
  | nil =>
      intro start last fault w w' h
      cases h
  | cons node rest ih =>
      intro start last fault w w' h
      rw [List.cons_append, evaluateBody]
      rw [evaluateBody] at h
      cases hnode : ev node env w with
      | error fault w₁ =>
          rw [bind_of_error hnode] at h ⊢
          exact h
      | ok value w₁ =>
          rw [bind_of_ok hnode] at h ⊢
          exact ih value h

end Body

lemma runSource_of_parse (s : Settings) {source : String} {nodes : List Node}
    (h : parse source = .ok nodes) (env : Handle) :
    runSource s source env = evaluateBody (evaluate s) env .unit nodes := by
  unfold runSource runWith
  rw [h]

namespace Console

@[simp] lemma dequeue_world (line : Int) (c : Console) : (c.dequeue line).world = c.world := by
  unfold dequeue
  split_ifs <;> rfl

@[simp] lemma dequeue_env (line : Int) (c : Console) :
    (c.dequeue line).session.env = c.session.env := by
  unfold dequeue
  split_ifs <;> rfl

@[simp] lemma dequeue_settings (line : Int) (c : Console) :
    (c.dequeue line).session.settings = c.session.settings := by
  unfold dequeue
  split_ifs <;> rfl

/-- A source that succeeds changes the world of the session, but not where and how it runs. -/
lemma runOne_ok (line : Int) {source : String} {c : Console} {value : Value} {w : World}
    (h : runSource c.session.settings source c.session.env c.world = .ok value w) :
    ∃ c', runOne line source c = .ok () c' ∧ c'.world = w ∧
      c'.session.env = c.session.env ∧ c'.session.settings = c.session.settings := by
  simp only [runOne, onWorld, h]
  exact ⟨_, rfl, by simp [changeSession], by simp [changeSession], by simp [changeSession]⟩

lemma runOne_error (line : Int) {source : String} {c : Console} {fault : Fault} {w : World}
    (h : runSource c.session.settings source c.session.env c.world = .error fault w) :
    ∃ c', runOne line source c = .error fault c' ∧ c'.world = w := by
  simp only [runOne, onWorld, h]
  exact ⟨_, rfl, by simp⟩

/-- Running sources one by one ends like evaluating all that they hold. -/
lemma runAll_endsLike {queue : List (Int × String)} {parts : List (List Node)}
    (h : List.Forall₂ (fun entry part => parse entry.2 = .ok part) queue parts) :
    ∀ (c : Console) (last : Value), EndsLike (runAll queue c)
      (evaluateBody (evaluate c.session.settings) c.session.env last parts.flatten c.world) := by
  induction h with
  | nil => exact fun _ _ => rfl
  | @cons entry part queue parts hpart _ ih =>
      intro c last
      have hrun := runSource_of_parse c.session.settings hpart c.session.env
      obtain ⟨line, source⟩ := entry
      rw [runAll, List.flatten_cons]
      cases hbody : evaluateBody (evaluate c.session.settings) c.session.env .unit part c.world with
      | ok value w =>
          obtain ⟨c', hone, rfl, henv, hsettings⟩ := runOne_ok line (hrun ▸ hbody)
          obtain ⟨value', happend⟩ := evaluateBody_append_ok parts.flatten last hbody
          rw [bind_of_ok hone, happend, ← henv, ← hsettings]
          exact ih c' value'
      | error fault w =>
          obtain ⟨c', hone, hworld⟩ := runOne_error line (hrun ▸ hbody)
          rw [bind_of_error hone, evaluateBody_append_error parts.flatten last hbody]
          exact ⟨rfl, hworld⟩

lemma run_endsLike {c : Console} {r : EStateM.Result Fault World Value}
    (h : EndsLike (runAll c.session.queue c) r) : EndsLike (run c) r := by
  have hrun : run c = (runAll c.session.queue >>= fun _ => modify fun c => c.changeSession fun s =>
      if s.interactive then s else { s with queue := [] }) c := bind_of_ok rfl
  rw [hrun]
  cases hall : runAll c.session.queue c with
  | ok value c' =>
      rw [hall] at h
      rw [bind_of_ok hall]
      cases r with
      | ok value' w => exact h
      | error fault w => exact h
  | error fault c' =>
      rw [hall] at h
      rw [bind_of_error hall]
      exact h

end Console

/-- **The two ways to run a script file.**  Take a file that can be read, under a path that is not
the name of the command line, and whose text can be read as a whole.  Then a session on it is
opened with sources that can be read one by one and hold, in order, what the text holds; and running
the session ends like running the file. -/
theorem Session.run_endsLike_runFile (s : Settings) (env : Handle) (report : Report)
    {path source : String} {w w' : World} {nodes : List Node} (hpath : path ≠ commandLineName)
    (hread : readSource path w = .ok source w') (hparse : parse source = .ok nodes) :
    ∃ session report', Session.start w.files report env s path false = (.ok session, report') ∧
      (∃ parts : List (List Node),
        List.Forall₂ (fun entry part => parse entry.2 = .ok part) session.queue parts ∧
          parts.flatten = nodes) ∧
      Console.EndsLike (Console.run ⟨w, report', session⟩) (runFile s path env w) := by
  obtain ⟨hnull, rfl, text, htext, rfl⟩ := readSource_ok hread
  have hfile : runFile s path env w' = evaluateBody (evaluate s) env .unit nodes w' := by
    rw [runFile, bind_of_ok hread, runSource_of_parse s hparse]
  rw [parse_ofList] at hparse
  obtain ⟨parts, hparts, rfl⟩ := sources_readAll hparse
  have hqueue : List.Forall₂ (fun (entry : Int × String) part => parse entry.2 = .ok part)
      ((sources text).map fun s => ((s.line : Int), String.ofList s.text)) parts := by
    rw [List.forall₂_map_left_iff]
    exact hparts.imp fun s part hpart => by rw [parse_ofList, hpart]
  refine ⟨_, _, Session.start_script s env report hpath hnull htext, ⟨parts, hqueue, rfl⟩, ?_⟩
  rw [hfile]
  exact Console.run_endsLike (Console.runAll_endsLike hqueue _ .unit)

/-- A form over two lines, and a parenthesis in a comment: the text is one source. -/
theorem Session.run_endsLike_runFile_two_lines :
    let w : World :=
      { files := { entries := [(["a"], .file [0x28, 0x66, 0x0A, 0x67, 0x29, 0x23, 0x28])] } }
    ∃ session report', Session.start w.files {} 0 {} "a" false = (.ok session, report') ∧
      (∃ parts : List (List Node),
        List.Forall₂ (fun entry part => parse entry.2 = .ok part) session.queue parts ∧
          parts.flatten = [.list [.symbol "f", .symbol "g"]]) ∧
      Console.EndsLike (Console.run ⟨w, report', session⟩) (runFile {} "a" 0 w) := by
  intro w
  have hread : readSource "a" w = .ok (String.ofList ['(', 'f', '\n', 'g', ')', '#', '(']) w := rfl
  exact Session.run_endsLike_runFile {} 0 {} (by decide) hread rfl

end ArenaLisp
