import ArenaLisp.Library
import ArenaLisp.Proofs.LineEnds
import ArenaLisp.Prompt

/-!
# A source typed line by line

A form that goes over several lines can be typed at the prompt as it stands in a script file.  The
prompt looks at each line before it becomes part of a source: it strips the line, passes over blank
lines, and takes some lines for commands.  So the text that is run is not the text that was typed.
It is another text that holds the same, as long as no line is a command and no string has blanks
where the prompt strips them.

* `SingleSource` — lines that make up one source of a script file.
* `Prompt.enterLines` — lines entered one by one.
* `Prompt.enter_typed` — one line of a source.
* **`Prompt.enterLines_singleSource`** — all lines of a source.
-/

namespace ArenaLisp

/-! ## One source in a script file -/

/-- **Lines that make up one source**: after every one but the last something is open, and after the
last nothing is. -/
structure SingleSource (lines : List (List Char)) : Prop where
  feedless : ∀ line ∈ lines, '\n' ∉ line
  nonblank : Text.isBlankLine (Text.joinLines lines) = false
  opens : ∀ k < lines.length, 0 < k → isOpen (Text.joinLines (lines.take k)) = true
  closes : isOpen (Text.joinLines lines) = false

namespace Text

/-- Lines that were put together are cut apart again. -/
lemma pieces_joinLines {lines : List (List Char)} (hne : lines ≠ [])
    (h : ∀ line ∈ lines, '\n' ∉ line) : pieces ['\n'] (joinLines lines) = lines := by
  rw [joinLines_eq_intercalate, pieces_intercalate hne h]

lemma dropFinalEmpty_of_last {line : List Char} (h : line ≠ []) (lines : List (List Char)) :
    dropFinalEmpty (lines ++ [line]) = lines ++ [line] := by
  induction lines with
  | nil => cases line with
    | nil => exact absurd rfl h
    | cons c rest => rfl
  | cons first rest ih => rw [List.cons_append, dropFinalEmpty_cons (by simp), ih]

lemma joinLines_append (t line : List Char) (rest : List (List Char)) :
    joinLines ((t ++ '\n' :: line) :: rest) = joinLines (t :: line :: rest) := by
  cases rest <;> simp [joinLines]

end Text

/-- A line feed at the end of a text changes nothing. -/
lemma Lexer.events_newline (t : List Char) : events (t ++ ['\n']) = events t := by
  show eventsFrom .start .gap (t ++ ['\n']) = eventsFrom .start .gap t
  rcases eventsFrom_line [] t .start .gap with ⟨place, h⟩ | ⟨es, opened, collected, place, ht, h⟩
  · rw [h, eventsFrom_nil, finish, List.append_nil]
  · rw [h, eventsFrom_nil, ht, finish]

/-- Lines that go on with a source that is open. -/
lemma Gathering.addAll_open (first : Nat) : ∀ (rest : List (List Char)) (t : List Char)
    (number : Nat), (∀ k < rest.length, isOpen (Text.joinLines (t :: rest.take k)) = true) →
      (Gathering.addAll ⟨[⟨t, first⟩], isOpen t⟩ number rest).sources =
        [⟨Text.joinLines (t :: rest), first⟩] := by
  intro rest
  induction rest with
  | nil => exact fun t _ _ => rfl
  | cons line rest ih =>
      intro t number h
      have hopen : isOpen t = true := h 0 (by simp)
      rw [hopen, ← Text.joinLines_append]
      refine ih (t ++ '\n' :: line) (number + 1) fun k hk => ?_
      rw [Text.joinLines_append]
      exact h (k + 1) (by simpa using hk)

namespace SingleSource

variable {lines : List (List Char)}

lemma length_pos (h : SingleSource lines) : 0 < lines.length := by
  cases lines with
  | nil => exact absurd h.nonblank (by decide)
  | cons line rest => simp

/-- The first line is not blank, or nothing would be open after it. -/
lemma first_nonblank (h : SingleSource lines) (hlines : 0 < lines.length) :
    Text.isBlankLine lines[0] = false := by
  by_contra hblank
  have hblank : Text.isBlankLine lines[0] = true := by simpa using hblank
  match lines, h with
  | [line], h =>
      have hnonblank := h.nonblank
      simp only [Text.joinLines] at hnonblank
      rw [List.getElem_cons_zero, hnonblank] at hblank
      cases hblank
  | line :: next :: rest, h =>
      have hopen := h.opens 1 (by simp) (by decide)
      have hclosed : isOpen line = false := Gathering.isOpen_blank hblank
      simp only [List.take_succ_cons, List.take_zero, Text.joinLines, hclosed] at hopen
      cases hopen

/-- The last line is not empty, or the source would have been complete without it. -/
lemma last_ne_nil (h : SingleSource lines) {before : List (List Char)} {line : List Char}
    (hlines : lines = before ++ [line]) : line ≠ [] := by
  rintro rfl
  subst hlines
  cases before with
  | nil => exact absurd h.nonblank (by decide)
  | cons first before =>
      have hopen := h.opens (first :: before).length (by simp) (by simp)
      have hclosed := h.closes
      rw [List.take_left] at hopen
      rw [Text.joinLines_concat (by simp), isOpen, Lexer.events_newline, ← isOpen, hopen] at hclosed
      cases hclosed

/-- A script file with these lines is one source. -/
theorem sources_joinLines (h : SingleSource lines) :
    sources (Text.joinLines lines) = [⟨Text.joinLines lines, 1⟩] := by
  have hne : lines ≠ [] := List.ne_nil_of_length_pos h.length_pos
  have hlines : Text.lines (Text.joinLines lines) = lines := by
    obtain ⟨before, line, hsplit⟩ : ∃ before line, lines = before ++ [line] := by
      rcases List.eq_nil_or_concat lines with hnil | ⟨before, line, hsplit⟩
      · exact absurd hnil hne
      · exact ⟨before, line, by simpa using hsplit⟩
    rw [Text.lines, Text.pieces_joinLines hne h.feedless, hsplit,
      Text.dropFinalEmpty_of_last (h.last_ne_nil hsplit)]
  have hfirst := h.first_nonblank h.length_pos
  rw [sources, hlines]
  cases lines with
  | nil => exact absurd rfl hne
  | cons first rest =>
      have hadd : (Gathering.add {} 1 first).2 = ⟨[⟨first, 1⟩], isOpen first⟩ := by
        rw [List.getElem_cons_zero] at hfirst
        simp [Gathering.add, hfirst]
      rw [Gathering.addAll, hadd, Gathering.addAll_open 1 rest first 2 ?_]
      · rfl
      · intro k hk
        exact h.opens (k + 1) (by simpa using hk) (by omega)

end SingleSource

/-! ## Lines at the prompt -/

/-- A command that is for the prompt itself. -/
def Prompt.Command.isForPrompt : Prompt.Command → Bool
  | .help | .leave | .endOfInput => true
  | .nothing | .source _ => false

/-- A console as the program has it when the prompt starts. -/
def Console.fresh : Console :=
  { world := { arena := Arena.default }
    report := { fatal := false }
    session := { path := commandLineName, interactive := true } }

namespace Prompt

/-- Lines entered one by one, as long as the next one is asked for. -/
def enterLines : Prompt → List (List Char) → Reply × Prompt
  | p, [] => (.next, p)
  | p, line :: rest =>
    match p.enter line with
    | (.next, p) => p.enterLines rest
    | outcome => outcome

lemma enterLines_concat {q : Prompt} (line : List Char) : ∀ {lines : List (List Char)} {p : Prompt},
    p.enterLines lines = (.next, q) → p.enterLines (lines ++ [line]) = q.enter line := by
  intro lines
  induction lines with
  | nil =>
      intro p h
      obtain rfl : p = q := (Prod.mk.inj h).2
      simp only [List.nil_append, enterLines]
      cases hline : p.enter line with
      | mk reply next => cases reply <;> rfl
  | cons first rest ih =>
      intro p h
      simp only [List.cons_append, enterLines] at h ⊢
      cases hfirst : p.enter first with
      | mk reply next =>
          rw [hfirst] at h
          cases reply with
          | next => exact ih h
          | stop => simp at h
          | exit code => simp at h
          | escaped fault => simp at h

/-- A line that is no command is source, unless it is blank. -/
lemma command_of_not_isForPrompt {line : List Char} (h : (command line).isForPrompt = false) :
    command line =
      if Text.isBlankLine line then .nothing else .source (Text.strip line) := by
  by_cases hblank : Text.isBlankLine line = true
  · rw [if_pos hblank, command, (Text.strip_eq_nil_iff line).mpr hblank]
  · rw [if_neg hblank]
    have hne : Text.strip line ≠ [] := fun hnil => hblank ((Text.strip_eq_nil_iff line).mp hnil)
    unfold command at h ⊢
    split at h
    · contradiction
    · simp [Command.isForPrompt] at h
    · simp only at h ⊢
      split_ifs at h ⊢ <;> first | rfl | simp [Command.isForPrompt] at h

/-- The text that is pending is that of lines put together. -/
lemma joined_joinLines {lines : List (List Char)} (h : ∀ line ∈ lines, line ≠ [])
    (line : List Char) :
    joined (String.ofList (Text.joinLines lines)) (String.ofList line) =
      String.ofList (Text.joinLines (lines ++ [line])) := by
  cases lines with
  | nil => rfl
  | cons first rest =>
      have hpending : Text.joinLines (first :: rest) ≠ [] := by
        have hfirst := h first (by simp)
        cases first with
        | nil => exact absurd rfl hfirst
        | cons c more => rw [Text.joinLines_cons_cons]; simp
      rw [Text.joinLines_concat (by simp), joined, if_neg (by simpa using hpending)]
      simp [String.append_assoc]

/-- **One line of a source.**  Together with the lines before it, all stripped, it stays pending
while they are open and is run once they are not. -/
lemma enter_typed {q : Prompt} {before : List (List Char)} {line : List Char}
    (hq : q.pending = String.ofList (Text.joinLines (Text.typed before)))
    (hcommand : (command line).isForPrompt = false) (hline : Text.isBlankLine line = false) :
    q.enter line =
      let source := Text.joinLines (Text.typed (before ++ [line]))
      if isOpen source then
        (.next, { q with
          pending := String.ofList source
          mark := furtherMark
          lineNumber := q.lineNumber + 1 })
      else complete q.console (String.ofList source) (q.lineNumber + 1) := by
  have hjoined : joined q.pending (String.ofList (Text.strip line)) =
      String.ofList (Text.joinLines (Text.typed (before ++ [line]))) := by
    rw [hq, joined_joinLines fun _ hmem => Text.ne_nil_of_mem_typed hmem, Text.typed_concat,
      if_neg (by simp [hline])]
  rw [enter, command_of_not_isForPrompt hcommand, if_neg (by simp [hline])]
  simp only [enterSource, hjoined, String.toList_ofList]

/-- A blank line is passed over. -/
lemma enter_blank (q : Prompt) {line : List Char} (hline : Text.isBlankLine line = true) :
    q.enter line = (.next, q) := by
  rw [enter, command, (Text.strip_eq_nil_iff line).mpr hline]

section Lines

variable {p : Prompt} {lines : List (List Char)}

/-- Before the last line of a source nothing has happened but that the lines are pending. -/
lemma enterLines_take (hp : p.pending = "") (h : SingleSource lines)
    (hcommand : ∀ line ∈ lines, (command line).isForPrompt = false) (hkept : StringsKept lines) :
    ∀ k < lines.length, ∃ q, p.enterLines (lines.take k) = (.next, q) ∧ q.console = p.console ∧
      q.pending = String.ofList (Text.joinLines (Text.typed (lines.take k))) ∧
      q.lineNumber = p.lineNumber + (Text.typed (lines.take k)).length := by
  intro k
  induction k with
  | zero => exact fun _ => ⟨p, rfl, rfl, hp, rfl⟩
  | succ k ih =>
      intro hk
      obtain ⟨q, hq, hconsole, hpending, hnumber⟩ := ih (by omega)
      have htake : lines.take (k + 1) = lines.take k ++ [lines[k]] :=
        List.take_succ_eq_append_getElem (by omega)
      have hopen : isOpen (Text.joinLines (Text.typed (lines.take k ++ [lines[k]]))) = true := by
        obtain ⟨-, halike⟩ :=
          alike_typed hkept h.length_pos (h.first_nonblank h.length_pos) k (by omega)
        rw [← htake, ← halike.isOpen_eq]
        exact h.opens (k + 1) hk (by omega)
      rw [htake, enterLines_concat _ hq]
      by_cases hblank : Text.isBlankLine lines[k] = true
      · refine ⟨q, enter_blank q hblank, hconsole, ?_⟩
        rw [Text.typed_concat, if_pos hblank, List.append_nil]
        exact ⟨hpending, hnumber⟩
      · rw [enter_typed hpending (hcommand _ (List.getElem_mem _)) (by simpa using hblank)]
        simp only [hopen, if_true]
        refine ⟨_, rfl, hconsole, rfl, ?_⟩
        rw [Text.typed_concat, if_neg hblank, List.length_append, List.length_singleton]
        show q.lineNumber + 1 = _
        omega

/-- The last line of a source is not blank, or the source would have been complete without it. -/
lemma last_nonblank (h : SingleSource lines) (hkept : StringsKept lines) {k : Nat}
    (hk : k < lines.length) (hlast : k + 1 = lines.length) : Text.isBlankLine lines[k] = false := by
  by_contra hblank
  have hblank : Text.isBlankLine lines[k] = true := by simpa using hblank
  have halike := alike_typed hkept h.length_pos (h.first_nonblank h.length_pos)
  cases k with
  | zero =>
      rw [h.first_nonblank hk] at hblank
      cases hblank
  | succ k =>
      have hopen := h.opens (k + 1) hk (by omega)
      have hclosed := h.closes
      rw [(halike k (by omega)).2.isOpen_eq] at hopen
      rw [← List.take_length (l := lines), ← hlast, (halike (k + 1) hk).2.isOpen_eq,
        List.take_succ_eq_append_getElem hk, Text.typed_concat, if_pos hblank, List.append_nil,
        hopen] at hclosed
      cases hclosed

/-- **A source typed line by line.**  Let lines make up one source of a script file, and let nothing
be pending at the prompt.  If no line is a command of the prompt, and no line that starts or ends
inside a string has blanks there or is empty, then entering them one by one comes to running, once
and on the console as it was, the text of the lines that are not blank, each of them stripped.  That
text is read as the same nodes as the script file, or neither of the two can be read. -/
theorem enterLines_singleSource (hp : p.pending = "") (h : SingleSource lines)
    (hcommand : ∀ line ∈ lines, (command line).isForPrompt = false) (hkept : StringsKept lines) :
    let source := Text.joinLines (Text.typed lines)
    p.enterLines lines = complete p.console (String.ofList source)
      (p.lineNumber + (Text.typed lines).length) ∧
    sources (Text.joinLines lines) = [⟨Text.joinLines lines, 1⟩] ∧
    ∀ nodes, parse (String.ofList source) = .ok nodes ↔
      parse (String.ofList (Text.joinLines lines)) = .ok nodes := by
  intro source
  obtain ⟨k, hlast⟩ : ∃ k, k + 1 = lines.length :=
    ⟨lines.length - 1, Nat.succ_pred_eq_of_pos h.length_pos⟩
  have hk : k < lines.length := by omega
  have hlines : lines = lines.take k ++ [lines[k]] := by
    rw [← List.take_succ_eq_append_getElem hk, hlast, List.take_length]
  have hline := last_nonblank h hkept hk hlast
  have halike : Alike (Text.joinLines lines) source := by
    obtain ⟨-, halike⟩ := alike_typed hkept h.length_pos (h.first_nonblank h.length_pos) k hk
    rwa [hlast, List.take_length] at halike
  refine ⟨?_, h.sources_joinLines, fun nodes => ?_⟩
  · obtain ⟨q, hq, hconsole, hpending, hnumber⟩ := enterLines_take hp h hcommand hkept k hk
    have hclosed : isOpen source = false := halike.isOpen_eq.symm.trans h.closes
    have henter : p.enterLines lines = q.enter lines[k] := by
      conv_lhs => rw [hlines]
      exact enterLines_concat _ hq
    have hlength : (Text.typed lines).length = (Text.typed (lines.take k)).length + 1 := by
      conv_lhs => rw [hlines]
      rw [Text.typed_concat, if_neg (by simp [hline]), List.length_append, List.length_singleton]
    rw [henter, enter_typed hpending (hcommand _ (List.getElem_mem _)) hline, ← hlines]
    simp only [show isOpen (Text.joinLines (Text.typed lines)) = false from hclosed,
      Bool.false_eq_true, if_false]
    rw [hconsole, hnumber, hlength, Nat.add_assoc]
  · rw [parse_ofList, parse_ofList]
    exact ⟨halike.symm.readAll_eq_ok, halike.readAll_eq_ok⟩

end Lines

/-- A comment, a blank line, an indented line, and a string over two lines. -/
theorem enterLines_singleSource_indented :
    let lines := ["(list 1 # (", "", "   \"a", "b\" )  "].map String.toList
    let p : Prompt := { console := Console.fresh }
    (SingleSource lines ∧ StringsKept lines) ∧
      p.enterLines lines = complete Console.fresh "(list 1 # (\n\"a\nb\" )" 3 ∧
      (p.enterLines lines).2.console.world.output = "(1,a\nb)\n" := by
  intro lines p
  have hsingle : SingleSource lines := ⟨by decide, by decide, by decide +kernel, by decide +kernel⟩
  have hkept : StringsKept lines := ⟨by decide +kernel, by decide +kernel⟩
  have hsource : String.ofList (Text.joinLines (Text.typed lines)) =
      "(list 1 # (\n\"a\nb\" )" := by decide +kernel
  have hnumber : p.lineNumber + (Text.typed lines).length = 3 := by decide +kernel
  obtain ⟨hrun, -, -⟩ := enterLines_singleSource (p := p) rfl hsingle (by decide +kernel) hkept
  rw [hsource, hnumber] at hrun
  exact ⟨⟨hsingle, hkept⟩, hrun, by decide +kernel⟩

lemma complete_ne_stop (c : Console) (source : String) (number : Nat) :
    (complete c source number).1 ≠ .stop := by
  unfold complete
  cases runSourceText source number c with
  | ok _ c => simp
  | error fault c =>
      simp only
      cases (c.handle fault.incident).1 <;> simp

/-- The text that is typed is not always the text that is run.  A line inside an open form can be a
command and leave the prompt; and without any command, a string loses its blanks. -/
theorem enterLines_not_verbatim :
    (¬∀ (p : Prompt) (lines : List (List Char)), p.pending = "" → SingleSource lines →
      ∃ number, p.enterLines lines =
        complete p.console (String.ofList (Text.joinLines lines)) number) ∧
    let lines := ["\"a", "  b\""].map String.toList
    SingleSource lines ∧ (∀ line ∈ lines, (command line).isForPrompt = false) ∧
      (complete Console.fresh (String.ofList (Text.joinLines lines)) 2).2.console.world.output =
        "a\n  b\n" ∧
      (enterLines { console := Console.fresh } lines).2.console.world.output = "a\nb\n" := by
  constructor
  · intro h
    let lines := ["(list", "exit", ")"].map String.toList
    let p : Prompt := { console := Console.fresh }
    have hsingle : SingleSource lines :=
      ⟨by decide, by decide, by decide +kernel, by decide +kernel⟩
    obtain ⟨number, hsame⟩ := h p lines rfl hsingle
    have hstop : (match (p.enterLines lines).1 with
      | .stop => true
      | _ => false) = true := by decide +kernel
    rw [hsame] at hstop
    have hne := complete_ne_stop p.console (String.ofList (Text.joinLines lines)) number
    generalize (complete p.console (String.ofList (Text.joinLines lines)) number).1 = reply
      at hstop hne
    cases reply <;> simp_all
  · intro lines
    have hsingle : SingleSource lines :=
      ⟨by decide, by decide, by decide +kernel, by decide +kernel⟩
    exact ⟨hsingle, by decide +kernel, by decide +kernel, by decide +kernel⟩

end Prompt

end ArenaLisp
