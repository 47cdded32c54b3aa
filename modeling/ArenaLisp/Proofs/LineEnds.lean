import ArenaLisp.Proofs.Continuation
import Mathlib.Data.List.TakeWhile

/-!
# Blanks at the ends of lines

Blanks at the two ends of a line carry no meaning, unless the line starts or ends inside a string.
So a text may be indented in another way, and blank lines may be put in or left out: it holds the
same tokens, and asks for more lines at the same points.

To follow two such texts line by line it does not do to compare their tokens.  At the end of a line
one of them may be in the middle of a symbol or of a comment and the other one behind it.  What
counts is that a *line feed* brings them together again.

* `endsInString` — whether a text ends inside a string.
* `Alike` — two texts that hold the same, now and after any further line.
* `alike_leading`, `alike_trailing` — blanks put in at the start or at the end of a line.
* **`Alike.strip`** — a further line, stripped of its blanks.
* **`alike_typed`** — a text whose lines are stripped, without the blank ones.
-/

namespace ArenaLisp

open Lexer

/-- An event that says that the text ends inside a string. -/
def Lexer.isUnterminated : Event → Bool
  | .error (.unterminatedString _) => true
  | _ => false

/-- Whether a text ends inside a string. -/
def endsInString (text : List Char) : Bool := (events text).any isUnterminated

/-! ## The lexer inside and outside of strings -/

namespace Lexer

/-- Inside a string every character counts. -/
def Mode.inString : Mode → Bool
  | .string .. | .escape .. => true
  | .gap | .comment | .symbol _ => false

/-- What the lexer has emitted within a text, and whether it is in a string at its end. -/
lemma events_append (text : List Char) : ∃ es place mode,
    (∀ rest, events (text ++ rest) = es ++ eventsFrom place mode rest) ∧
      mode.inString = endsInString text := by
  obtain ⟨es, place, mode, hes, happend⟩ := eventsFrom_append text .start .gap
  refine ⟨es, place, mode, happend, ?_⟩
  have hend : events text = es ++ finish mode := by
    have h := happend []
    rwa [List.append_nil, eventsFrom_nil] at h
  have hnone : es.any isUnterminated = false := by
    rw [List.any_eq_false]
    intro event hmem hevent
    match event with
    | .ok _ => simp [isUnterminated] at hevent
    | .error (.unterminatedString opened) => exact hes opened hmem
    | .error (.invalidToken ..) => simp [isUnterminated] at hevent
    | .error (.invalidCharacter ..) => simp [isUnterminated] at hevent
  rw [endsInString, hend, List.any_append, hnone]
  cases mode <;> rfl

/-- A line feed outside of strings ends what the end of the text would end. -/
lemma step_newline (place : Position) {mode : Mode} (h : mode.inString = false) :
    step '\n' place mode = (finish mode, .gap) := by
  cases mode with
  | gap => rfl
  | comment => rfl
  | symbol collected => rfl
  | string opened collected => simp [Mode.inString] at h
  | escape opened collected => simp [Mode.inString] at h

/-- So does any blank, but a comment may go on behind it. -/
lemma step_blank {c : Char} (hc : Text.isBlank c = true) (place : Position) {mode : Mode}
    (h : mode.inString = false) :
    (step c place mode).2.inString = false ∧
      (step c place mode).1 ++ finish (step c place mode).2 = finish mode := by
  have hgap : stepGap c place = ([], .gap) := by simp [stepGap, hc]
  cases mode with
  | gap => simp [step, hgap, finish, Mode.inString]
  | comment =>
      simp only [step, hgap]
      split_ifs <;> simp [finish, Mode.inString]
  | symbol collected => simp [step, hc, finish, Mode.inString]
  | string opened collected => simp [Mode.inString] at h
  | escape opened collected => simp [Mode.inString] at h

/-- Blanks outside of strings. -/
lemma eventsFrom_blanks : ∀ (blanks : List Char), Text.isBlankLine blanks = true →
    ∀ (place : Position) {mode : Mode}, mode.inString = false →
    ∃ es place' mode', mode'.inString = false ∧ es ++ finish mode' = finish mode ∧
      ∀ rest, eventsFrom place mode (blanks ++ rest) = es ++ eventsFrom place' mode' rest := by
  intro blanks
  induction blanks with
  | nil => exact fun _ place mode h => ⟨[], place, mode, h, rfl, fun _ => rfl⟩
  | cons c blanks ih =>
      intro hb place mode h
      simp only [Text.isBlankLine, List.all_cons, Bool.and_eq_true] at hb
      obtain ⟨hmode, hfinish⟩ := step_blank hb.1 (place.after c) h
      obtain ⟨es, place', mode', hmode', hfinish', hrest⟩ := ih hb.2 (place.after c) hmode
      refine ⟨(step c (place.after c) mode).1 ++ es, place', mode', hmode', ?_, fun rest => ?_⟩
      · rw [List.append_assoc, hfinish', hfinish]
      · rw [List.cons_append, eventsFrom_cons, hrest, List.append_assoc]

/-- Blanks inside a string do not end it. -/
lemma eventsFrom_blanks_inString : ∀ (blanks : List Char), Text.isBlankLine blanks = true →
    ∀ (place : Position) {mode : Mode}, mode.inString = true →
    (eventsFrom place mode blanks).any isUnterminated = true := by
  intro blanks
  induction blanks with
  | nil =>
      intro _ place mode h
      rw [eventsFrom_nil]
      cases mode <;> simp_all [Mode.inString, finish, isUnterminated]
  | cons c blanks ih =>
      intro hb place mode h
      simp only [Text.isBlankLine, List.all_cons, Bool.and_eq_true] at hb
      have hquote : c ≠ '"' := by
        rintro rfl
        exact absurd hb.1 (by decide)
      have hslash : c ≠ '\\' := by
        rintro rfl
        exact absurd hb.1 (by decide)
      have hmode : (step c (place.after c) mode).2.inString = true := by
        cases mode <;> simp_all [Mode.inString, step]
      rw [eventsFrom_cons, List.any_append, ih hb.2 _ hmode, Bool.or_true]

/-- Blanks between tokens. -/
lemma eventsFrom_indent : ∀ (blanks : List Char), Text.isBlankLine blanks = true →
    ∀ place : Position, ∃ place', ∀ rest,
      eventsFrom place .gap (blanks ++ rest) = eventsFrom place' .gap rest := by
  intro blanks
  induction blanks with
  | nil => exact fun _ place => ⟨place, fun _ => rfl⟩
  | cons c blanks ih =>
      intro hb place
      simp only [Text.isBlankLine, List.all_cons, Bool.and_eq_true] at hb
      obtain ⟨place', hrest⟩ := ih hb.2 (place.after c)
      have hstep : step c (place.after c) .gap = ([], .gap) := by
        simp [step, stepGap, hb.1]
      refine ⟨place', fun rest => ?_⟩
      rw [List.cons_append, eventsFrom_cons, hstep, List.nil_append, hrest]

end Lexer

/-! ## Texts that hold the same -/

/-- **Texts that hold the same**, as they are and after any further line.  The places of their
faults may differ. -/
structure Alike (t u : List Char) : Prop where
  now : (events t).map placeless = (events u).map placeless
  later : ∀ rest, (events (t ++ '\n' :: rest)).map placeless =
    (events (u ++ '\n' :: rest)).map placeless

lemma isOpenFrom_placeless : ∀ (es : List Event) (depth : Int),
    isOpenFrom depth (es.map placeless) = isOpenFrom depth es := by
  intro es
  induction es with
  | nil => exact fun _ => rfl
  | cons event es ih =>
      intro depth
      match event with
      | .ok token => cases hk : token.kind <;> simp [placeless, isOpenFrom, hk, ih]
      | .error (.unterminatedString _) => rfl
      | .error (.invalidToken ..) => rfl
      | .error (.invalidCharacter ..) => rfl

lemma any_isUnterminated_placeless (es : List Event) :
    (es.map placeless).any isUnterminated = es.any isUnterminated := by
  rw [List.any_map]
  congr 1
  funext event
  match event with
  | .ok _ => rfl
  | .error (.unterminatedString _) => rfl
  | .error (.invalidToken ..) => rfl
  | .error (.invalidCharacter ..) => rfl

namespace Alike

variable {t u v : List Char}

lemma refl (t : List Char) : Alike t t := ⟨rfl, fun _ => rfl⟩

lemma symm (h : Alike t u) : Alike u t := ⟨h.now.symm, fun rest => (h.later rest).symm⟩

lemma trans (h : Alike t u) (h' : Alike u v) : Alike t v :=
  ⟨h.now.trans h'.now, fun rest => (h.later rest).trans (h'.later rest)⟩

/-- The same line may be added to both. -/
lemma add (h : Alike t u) (line : List Char) : Alike (t ++ '\n' :: line) (u ++ '\n' :: line) where
  now := h.later line
  later rest := by
    have hboth := h.later (line ++ '\n' :: rest)
    simpa using hboth

lemma isOpen_eq (h : Alike t u) : isOpen t = isOpen u := by
  rw [isOpen, isOpen, ← isOpenFrom_placeless, h.now, isOpenFrom_placeless]

lemma endsInString_eq (h : Alike t u) : endsInString t = endsInString u := by
  rw [endsInString, endsInString, ← any_isUnterminated_placeless, h.now,
    any_isUnterminated_placeless]

lemma readAll_eq_ok (h : Alike t u) {nodes : List Node} (ht : readAll t = .ok nodes) :
    readAll u = .ok nodes := by
  obtain ⟨tokens, htokens⟩ := tokens_of_readAll ht
  have hu : (events u).map placeless = tokens.map .ok := by
    rw [← h.now, htokens, List.map_map]
    rfl
  rw [readAll_of_events htokens] at ht
  rw [readAll_of_events (eq_of_map_placeless hu), ht]

end Alike

/-! ## Blanks at the start and at the end of a line -/

section Blanks

variable {t blanks : List Char}

/-- Blanks at the start of the first line. -/
lemma alike_indent (hb : Text.isBlankLine blanks = true) (line : List Char) :
    Alike (blanks ++ line) line := by
  have hsame : ∀ rest, (events (blanks ++ rest)).map placeless = (events rest).map placeless := by
    intro rest
    obtain ⟨place, hblanks⟩ := eventsFrom_indent blanks hb .start
    show (eventsFrom .start .gap (blanks ++ rest)).map placeless =
      (eventsFrom .start .gap rest).map placeless
    rw [hblanks]
    exact eventsFrom_placeless rest _ _ rfl
  exact ⟨hsame line, fun rest => by simpa using hsame (line ++ '\n' :: rest)⟩

/-- Blanks at the start of a further line, outside of strings. -/
lemma alike_leading (hb : Text.isBlankLine blanks = true) (ht : endsInString t = false)
    (line : List Char) : Alike (t ++ '\n' :: (blanks ++ line)) (t ++ '\n' :: line) := by
  obtain ⟨es, place, mode, happend, hmode⟩ := events_append t
  have hline : ∀ rest, events (t ++ '\n' :: rest) =
      es ++ (finish mode ++ eventsFrom (place.after '\n') .gap rest) := by
    intro rest
    rw [happend, eventsFrom_cons, step_newline _ (hmode.trans ht)]
  have hsame : ∀ rest, (events (t ++ '\n' :: (blanks ++ rest))).map placeless =
      (events (t ++ '\n' :: rest)).map placeless := by
    intro rest
    obtain ⟨place', hblanks⟩ := eventsFrom_indent blanks hb (place.after '\n')
    rw [hline, hline, hblanks, List.map_append, List.map_append, List.map_append, List.map_append,
      eventsFrom_placeless rest place' (place.after '\n') rfl]
  exact ⟨hsame line, fun rest => by simpa using hsame (line ++ '\n' :: rest)⟩

/-- Blanks at the end of a line, outside of strings. -/
lemma alike_trailing (hb : Text.isBlankLine blanks = true) (ht : endsInString t = false) :
    Alike (t ++ blanks) t := by
  obtain ⟨es, place, mode, happend, hmode⟩ := events_append t
  have hout : mode.inString = false := hmode.trans ht
  obtain ⟨es', place', mode', hout', hfinish, hblanks⟩ := eventsFrom_blanks blanks hb place hout
  refine ⟨?_, fun rest => ?_⟩
  · have hend : events t = es ++ finish mode := by
      have h := happend []
      rwa [List.append_nil, eventsFrom_nil] at h
    have hrest : eventsFrom place mode blanks = es' ++ finish mode' := by
      have h := hblanks []
      rwa [List.append_nil, eventsFrom_nil] at h
    rw [happend, hrest, hfinish, hend]
  · have hline : ∀ place, eventsFrom place mode ('\n' :: rest) =
        finish mode ++ eventsFrom (place.after '\n') .gap rest := by
      intro place
      rw [eventsFrom_cons, step_newline _ hout]
    have hline' : es' ++ eventsFrom place' mode' ('\n' :: rest) =
        finish mode ++ eventsFrom (place'.after '\n') .gap rest := by
      rw [eventsFrom_cons, step_newline _ hout', ← List.append_assoc, hfinish]
    rw [List.append_assoc, happend, happend, hblanks, hline, hline', List.map_append,
      List.map_append, List.map_append, List.map_append,
      eventsFrom_placeless rest (place'.after '\n') (place.after '\n') rfl]

/-- A string that is open stays open over blanks. -/
lemma endsInString_blanks (hb : Text.isBlankLine blanks = true) (ht : endsInString t = true) :
    endsInString (t ++ blanks) = true := by
  obtain ⟨es, place, mode, happend, hmode⟩ := events_append t
  have hin := eventsFrom_blanks_inString blanks hb place (hmode.trans ht)
  rw [endsInString, happend, List.any_append, hin, Bool.or_true]

end Blanks

/-! ## Stripped lines -/

namespace Text

/-- A line that is empty or starts with a blank. -/
def startsBlank (line : List Char) : Bool := line.head?.all isBlank

/-- A line that ends with a blank. -/
def endsBlank (line : List Char) : Bool := line.getLast?.any isBlank

/-- What is stripped from a line. -/
lemma strip_cases (line : List Char) : ∃ left right,
    line = left ++ (strip line ++ right) ∧
    isBlankLine left = true ∧ (startsBlank line = false → left = []) ∧
    isBlankLine right = true ∧ (endsBlank line = false → right = []) := by
  have hkept : line.dropWhile isBlank = strip line ++
      ((line.dropWhile isBlank).reverse.takeWhile isBlank).reverse := by
    rw [strip, ← List.reverse_append, List.takeWhile_append_dropWhile, List.reverse_reverse]
  refine ⟨line.takeWhile isBlank, ((line.dropWhile isBlank).reverse.takeWhile isBlank).reverse, ?_,
    List.all_takeWhile, ?_, ?_, ?_⟩
  · rw [← hkept, List.takeWhile_append_dropWhile]
  · intro h
    cases line with
    | nil => rfl
    | cons c rest =>
        have hc : isBlank c = false := by simpa [startsBlank] using h
        simp [hc]
  · rw [isBlankLine, List.all_reverse]
    exact List.all_takeWhile
  · intro h
    generalize hrest : line.dropWhile isBlank = rest
    cases hlast : rest.getLast? with
    | none =>
        obtain rfl := List.getLast?_eq_none_iff.mp hlast
        rfl
    | some c =>
        -- the last character of the line is none of the blanks at its start
        have hline : line.getLast? = some c := by
          rw [← List.takeWhile_append_dropWhile (p := isBlank) (l := line), hrest,
            List.getLast?_append, hlast]
          rfl
        have hc : isBlank c = false := by simpa [endsBlank, hline] using h
        obtain ⟨before, rfl⟩ := List.getLast?_eq_some_iff.mp hlast
        simp [hc]

lemma strip_eq_nil_iff (line : List Char) : strip line = [] ↔ isBlankLine line = true := by
  constructor
  · intro h
    obtain ⟨left, right, hline, hleft, -, hright, -⟩ := strip_cases line
    simp only [isBlankLine] at hleft hright
    rw [hline, h, isBlankLine, List.nil_append, List.all_append, hleft, hright, Bool.and_self]
  · intro h
    have hnil : line.dropWhile isBlank = [] := List.dropWhile_eq_nil_iff.mpr (List.all_eq_true.mp h)
    simp [strip, hnil]

lemma startsBlank_of_isBlankLine {line : List Char} (h : isBlankLine line = true) :
    startsBlank line = true := by
  cases line with
  | nil => rfl
  | cons c rest =>
      simp only [isBlankLine, List.all_cons, Bool.and_eq_true] at h
      simpa [startsBlank] using h.1

/-- The lines that are not blank, stripped. -/
def typed (lines : List (List Char)) : List (List Char) :=
  (lines.filter fun line => !isBlankLine line).map strip

lemma typed_concat (lines : List (List Char)) (line : List Char) :
    typed (lines ++ [line]) = typed lines ++ if isBlankLine line then [] else [strip line] := by
  by_cases h : isBlankLine line = true <;> simp [typed, List.filter_append, h]

lemma ne_nil_of_mem_typed {lines : List (List Char)} {line : List Char} (h : line ∈ typed lines) :
    line ≠ [] := by
  obtain ⟨full, hmem, rfl⟩ := List.mem_map.mp h
  intro hnil
  have hblank := (strip_eq_nil_iff full).mp hnil
  simp [hblank] at hmem

end Text

/-- **A further line, stripped of its blanks.**  A line that starts inside a string must not start
with a blank, and one that ends inside a string must not end with one. -/
theorem Alike.strip {t u line : List Char} (h : Alike t u)
    (hhead : endsInString t = true → Text.startsBlank line = false)
    (htail : endsInString (t ++ '\n' :: line) = true → Text.endsBlank line = false) :
    Alike (t ++ '\n' :: line) (u ++ '\n' :: Text.strip line) := by
  obtain ⟨left, right, hline, hleft, hstart, hright, hend⟩ := Text.strip_cases line
  generalize Text.strip line = kept at hline ⊢
  subst hline
  have hindent : Alike (u ++ '\n' :: (left ++ (kept ++ right))) (u ++ '\n' :: (kept ++ right)) := by
    by_cases hu : endsInString u = true
    · rw [hstart (hhead (h.endsInString_eq.trans hu)), List.nil_append]
      exact .refl _
    · exact alike_leading hleft (by simpa using hu) _
  have hsofar := (h.add _).trans hindent
  refine hsofar.trans ?_
  have hassoc : u ++ '\n' :: (kept ++ right) = (u ++ '\n' :: kept) ++ right := by simp
  rw [hassoc] at hsofar ⊢
  by_cases hu : endsInString (u ++ '\n' :: kept) = true
  · have hopen := endsInString_blanks hright hu
    rw [hend (htail (hsofar.endsInString_eq.trans hopen)), List.append_nil]
    exact .refl _
  · exact alike_trailing hright (by simpa using hu)

/-- The first line, stripped of its blanks. -/
lemma alike_strip_first {line : List Char}
    (htail : endsInString line = true → Text.endsBlank line = false) :
    Alike line (Text.strip line) := by
  obtain ⟨left, right, hline, hleft, -, hright, hend⟩ := Text.strip_cases line
  generalize Text.strip line = kept at hline ⊢
  subst hline
  have hsofar := alike_indent hleft (kept ++ right)
  refine hsofar.trans ?_
  by_cases hkept : endsInString kept = true
  · have hopen := endsInString_blanks hright hkept
    rw [hend (htail (hsofar.endsInString_eq.trans hopen)), List.append_nil]
    exact .refl _
  · exact alike_trailing hright (by simpa using hkept)

/-- A blank line outside of strings. -/
lemma Alike.blank {t u line : List Char} (h : Alike t u) (ht : endsInString t = false)
    (hline : Text.isBlankLine line = true) : Alike (t ++ '\n' :: line) u := by
  have hblank : Text.isBlankLine ('\n' :: line) = true := by
    simpa [Text.isBlankLine, show Text.isBlank '\n' = true from rfl] using hline
  exact (alike_trailing hblank ht).trans h

/-! ## All lines -/

/-- **Lines with strings that survive typing.**  A line that starts inside a string starts with a
character that is not blank, and a line that ends inside a string does not end with a blank. -/
structure StringsKept (lines : List (List Char)) : Prop where
  starts : ∀ (k : Nat) (h : k < lines.length),
    endsInString (Text.joinLines (lines.take k)) = true → Text.startsBlank lines[k] = false
  ends : ∀ (k : Nat) (h : k < lines.length),
    endsInString (Text.joinLines (lines.take (k + 1))) = true → Text.endsBlank lines[k] = false

/-- **A text whose lines are stripped, without the blank ones**, holds the same, and so does every
beginning of it.  The first line must not be blank. -/
theorem alike_typed {lines : List (List Char)} (h : StringsKept lines) (hlines : 0 < lines.length)
    (hfirst : Text.isBlankLine lines[0] = false) : ∀ k < lines.length,
    Text.typed (lines.take (k + 1)) ≠ [] ∧
      Alike (Text.joinLines (lines.take (k + 1)))
        (Text.joinLines (Text.typed (lines.take (k + 1)))) := by
  intro k
  induction k with
  | zero =>
      intro _
      have htake : lines.take 1 = [] ++ [lines[0]] := by
        rw [List.take_succ_eq_append_getElem hlines, List.take_zero]
      have hends := h.ends 0 hlines
      rw [Nat.zero_add, htake] at hends ⊢
      rw [Text.typed_concat, if_neg (by simp [hfirst])]
      exact ⟨by simp, alike_strip_first hends⟩
  | succ k ih =>
      intro hk
      obtain ⟨hne, hsofar⟩ := ih (by omega)
      have htake : lines.take (k + 1 + 1) = lines.take (k + 1) ++ [lines[k + 1]] :=
        List.take_succ_eq_append_getElem hk
      have hbefore : lines.take (k + 1) ≠ [] := by
        intro hnil
        rw [hnil] at hne
        exact hne rfl
      have hstarts := h.starts (k + 1) hk
      have hends := h.ends (k + 1) hk
      rw [htake, Text.joinLines_concat hbefore] at hends
      rw [htake, Text.joinLines_concat hbefore, Text.typed_concat]
      by_cases hblank : Text.isBlankLine lines[k + 1] = true
      · -- a blank line is left out, so it must be outside of strings
        rw [if_pos hblank, List.append_nil]
        refine ⟨hne, hsofar.blank ?_ hblank⟩
        by_contra hopen
        have hstart := hstarts (by simpa using hopen)
        rw [Text.startsBlank_of_isBlankLine hblank] at hstart
        cases hstart
      · rw [if_neg hblank, Text.joinLines_concat hne]
        exact ⟨by simp, hsofar.strip hstarts hends⟩

end ArenaLisp
