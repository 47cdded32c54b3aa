import ArenaLisp.Proofs.Encoding
import ArenaLisp.Proofs.Readiness
import ArenaLisp.Proofs.Revisions

/-!
# The prompt comes to its end

The prompt takes one turn after the other until it is left.  It always is: a line that is read makes
the input smaller, nothing that is run adds to the input, and at the end of the input the prompt is
left.  So the number of turns that the loop is given is no limit.

* `Input.taken`, `Input.size_readLine` — what is read is gone from the input.
* `World.consumes_kept` — sources take from the input and add nothing.
* `Prompt.Ready.turn` — a turn after which the prompt goes on.
* `Prompt.Left` — the prompt, turn after turn, until it is left.
* **`Prompt.Ready.left_loop`** — the loop.
-/

namespace ArenaLisp

/-! ## The input -/

namespace Input

/-- A line and what follows it. -/
lemma splitLine_append (text : List Char) : (splitLine text).1 ++ (splitLine text).2 = text := by
  induction text with
  | nil => rfl
  | cons c rest ih =>
      unfold splitLine
      split_ifs with hc
      · rw [hc]
        rfl
      · exact congrArg (c :: ·) ih

lemma length_splitLine (text : List Char) :
    (splitLine text).1.length + (splitLine text).2.length = text.length := by
  rw [← List.length_append, splitLine_append]

/-- A carriage return that waits counts as a character. -/
lemma length_unify (held last : Bool) (text : List Char) :
    (unify held last text).1.length + (unify held last text).2.toNat ≤
      held.toNat + text.length := by
  unfold unify
  simp only
  generalize hfreed : (held && (last || !text.isEmpty)) = freed
  have hheld : freed.toNat + (held && !freed).toNat = held.toNat := by
    rw [← hfreed]
    cases held <;> cases (last || !text.isEmpty) <;> rfl
  have hlength : (if freed = true then '\r' :: text else text).length =
      freed.toNat + text.length := by
    cases freed
    · simp
    · simp [Nat.add_comm]
  generalize (if freed = true then '\r' :: text else text) = whole at hlength ⊢
  split_ifs with hend
  · have hne : whole ≠ [] := by
      rintro rfl
      simp at hend
    have hpos := List.length_pos_iff.mpr hne
    have hunified := Text.length_unifyNewlines_le whole.dropLast
    rw [List.length_dropLast] at hunified
    simp only [Bool.toNat_true]
    omega
  · have hunified := Text.length_unifyNewlines_le whole
    simp only
    omega

/-- What is decoded of a piece comes from the piece and from what had begun. -/
lemma size_receive {i next : Input} {piece : List UInt8} (h : i.receive piece = .ok next) :
    next.size ≤ i.size + piece.length := by
  unfold receive at h
  have hdecoded : ∀ {text begun}, (if piece.isEmpty then
      (Text.Utf8.decode (i.begun ++ piece)).map (·, []) else
      Text.Utf8.decodeBegun (i.begun ++ piece)) = .ok (text, begun) →
      text.length + begun.length ≤ i.begun.length + piece.length := by
    intro text begun hdecoded
    rw [← List.length_append]
    split_ifs at hdecoded with hempty
    · cases hall : Text.Utf8.decode (i.begun ++ piece) with
      | error problem =>
          rw [hall] at hdecoded
          cases hdecoded
      | ok all =>
          rw [hall] at hdecoded
          cases hdecoded
          exact Text.Utf8.length_of_decodeFrom hall
    · exact Text.Utf8.length_of_decodeBegun hdecoded
  simp only at h
  generalize (if piece.isEmpty then _ else _ : Except Text.Utf8.Malformed _) = decoded
    at h hdecoded
  cases decoded with
  | error problem => cases h
  | ok decoded =>
      obtain ⟨text, begun⟩ := decoded
      cases h
      have hlength := hdecoded rfl
      have hunified := length_unify i.held piece.isEmpty text
      simp only [size, List.length_append]
      omega

/-- How much was read of a line. -/
def taken : Except InputFault (List Char) → Nat
  | .ok line => line.length
  | .error _ => 0

lemma size_readFrom (supplies : List Supply) : ∀ (before : List Char) (held : Bool)
    (begun : List UInt8),
    taken (readFrom before held begun supplies).1 + (readFrom before held begun supplies).2.size ≤
      before.length + size { held, begun, supplies } := by
  induction supplies with
  | nil =>
      intro before held begun
      unfold readFrom
      cases hlast : receive { held, begun } [] with
      | error problem => simp [taken]
      | ok last =>
          have hsize := size_receive hlast
          simp only [taken, size, List.length_append, List.length_nil] at hsize ⊢
          omega
  | cons supply supplies ih =>
      intro before held begun
      cases supply with
      | refusal fault =>
          simp only [readFrom, taken, size, Supply.total]
          omega
      | bytes piece =>
          unfold readFrom
          cases hnext : receive { held, begun } piece with
          | error problem =>
              simp only [taken, size, Supply.total]
              omega
          | ok next =>
              have hsize := size_receive hnext
              have hsplit := length_splitLine next.text
              simp only [size, Supply.total, List.length_nil] at hsize ⊢
              generalize splitLine next.text = split at hsplit ⊢
              obtain ⟨line, text⟩ := split
              simp only at hsplit ⊢
              split_ifs
              · simp only [taken, Supply.size, List.length_append]
                omega
              · have hrest := ih (before ++ line) next.held next.begun
                simp only [size, List.length_append, List.length_nil] at hrest
                simp only [Supply.size]
                omega

/-- **What is read is gone from the input.** -/
theorem size_readLine (i : Input) : taken i.readLine.1 + i.readLine.2.size ≤ i.size := by
  have hsplit := length_splitLine i.text
  unfold readLine
  generalize splitLine i.text = split at hsplit ⊢
  obtain ⟨line, text⟩ := split
  simp only at hsplit ⊢
  split_ifs
  · simp only [taken, size]
    omega
  · have hread := size_readFrom i.supplies line i.held i.begun
    simp only [size, List.length_nil] at hread ⊢
    omega

/-- So is what another program took. -/
lemma total_skip_le (count : Nat) (supplies : List Supply) :
    Supply.total (skip count supplies) ≤ Supply.total supplies := by
  fun_induction skip count supplies with
  | case1 => exact Nat.le_refl _
  | case2 => exact Nat.le_refl _
  | case3 count fault supplies ih => exact Nat.le_trans ih (Nat.le_add_left _ _)
  | case4 count content supplies hlt =>
      simp only [Supply.total, Supply.size, List.length_drop]
      omega
  | case5 count content supplies hge ih => exact Nat.le_trans ih (Nat.le_add_left _ _)

end Input

/-! ## Sources -/

/-- **Sources take from the input** and add nothing to it. -/
lemma World.consumes_kept : World.Kept fun w w' => w'.input.size ≤ w.input.size where
  refl _ := Nat.le_refl _
  trans h h' := Nat.le_trans h' h
  arena _ _ := Nat.le_refl _
  trace w tracer message := by
    unfold World.trace
    split_ifs <;> exact Nat.le_refl _
  print _ _ := Nat.le_refl _
  readLine w := Nat.le_trans (Nat.le_add_left _ _) w.input.size_readLine
  afterCommand w completed :=
    Nat.add_le_add_left (Input.total_skip_le completed.taken w.input.supplies) _

namespace Prompt

variable {p q : Prompt} {c : Console}

/-! ## One turn -/

/-- What is left of the input. -/
def remaining (p : Prompt) : Nat := p.console.world.input.size

lemma remaining_complete (hidle : c.session.Idle) (hcalm : c.report.Calm) (source : String)
    (number : Nat) : (complete c source number).2.remaining ≤ c.world.input.size := by
  have hrun := World.consumes_kept.runSource c.session.settings source c.session.env c.world
  unfold Run.after at hrun
  cases hsource : runSource c.session.settings source c.session.env c.world with
  | ok value w =>
      rw [hsource] at hrun
      rw [complete_of_ok number hidle hsource]
      cases value <;> exact hrun
  | error fault w =>
      rw [hsource] at hrun
      rcases complete_of_error number hidle hcalm.fatal hsource with
        ⟨-, heq⟩ | ⟨-, _, heq⟩ | ⟨-, heq⟩ <;> rw [heq] <;> exact hrun

/-- Nothing is added to the input by a line that is entered. -/
lemma Ready.remaining_enter (h : p.Ready) (line : List Char) :
    (p.enter line).2.remaining ≤ p.remaining := by
  unfold Prompt.enter
  cases command line with
  | nothing | help | leave | endOfInput => exact Nat.le_refl _
  | source line =>
      simp only [enterSource]
      split_ifs
      · exact Nat.le_refl _
      · exact remaining_complete h.idle h.calm _ _

/-- A line that is read makes the input smaller, or it says that the input is at its end. -/
lemma remaining_readLine {line : List Char} (h : p.readLine = (.ok line, q)) :
    line = "EOF".toList ∨ q.remaining < p.remaining := by
  have hread := p.console.world.input.size_readLine
  unfold readLine at h
  generalize p.console.world.input.readLine = read at h hread
  obtain ⟨result, input⟩ := read
  match result with
  | .error fault => cases h
  | .ok [] =>
      cases h
      exact Or.inl rfl
  | .ok (c :: rest) =>
      cases h
      simp only [Input.taken, List.length_cons] at hread
      refine Or.inr ?_
      show input.size < p.console.world.input.size
      omega

/-- **A turn after which the prompt goes on** leaves it ready, with less of the input. -/
theorem Ready.turn (h : p.Ready) (hturn : p.turn = (.next, q)) :
    q.Ready ∧ q.remaining < p.remaining := by
  unfold Prompt.turn at hturn
  have hready := (h.print p.mark).readLine
  cases hread : (p.print p.mark).readLine with
  | mk result r =>
      rw [hread] at hturn hready
      cases result with
      | error fault => cases hturn
      | ok line =>
          simp only at hturn hready
          have hremains := hready.remaining_enter line
          have henter := hready.enter line
          rw [hturn] at hremains henter
          refine ⟨henter rfl, ?_⟩
          rcases remaining_readLine hread with rfl | hless
          · cases hturn
          · exact Nat.lt_of_le_of_lt hremains hless

/-! ## The loop -/

/-- **The prompt is left**: turn after turn is taken as long as it goes on, and the last one says
what follows. -/
inductive Left : Prompt → Reply × Prompt → Prop where
  | next {p q : Prompt} {outcome : Reply × Prompt} : p.turn = (.next, q) → Left q outcome →
      Left p outcome
  | last {p : Prompt} : p.turn.1 ≠ .next → Left p p.turn

/-- More turns than there is input are enough. -/
lemma Ready.left_turnsFrom (turns : Nat) : ∀ {p : Prompt}, p.Ready → p.remaining < turns →
    p.Left (turnsFrom turns p) := by
  induction turns with
  | zero => exact fun _ hlt => absurd hlt (Nat.not_lt_zero _)
  | succ turns ih =>
      intro p h hlt
      unfold turnsFrom
      cases hturn : p.turn with
      | mk reply q =>
          cases reply with
          | next =>
              obtain ⟨hready, hless⟩ := h.turn hturn
              exact .next hturn (ih hready (by omega))
          | stop | exit code | escaped fault =>
              have hlast : p.Left p.turn := .last (by simp [hturn])
              rwa [hturn] at hlast

/-- **The loop of the prompt** ends when the prompt is left, and not before. -/
theorem Ready.left_loop (h : p.Ready) : (p.print (intro ++ "\n")).Left p.loop :=
  (h.print _).left_turnsFrom _ (Nat.lt_succ_self _)

end Prompt

end ArenaLisp
