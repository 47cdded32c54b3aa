import ArenaLisp.Text.Pieces
import Mathlib.Data.List.Infix
import Mathlib.Tactic.Common

/-!
# Cutting a text at a separator

A text is cut by one walk from left to right that passes over every occurrence of the separator it
comes to.  A separator may overlap itself, and occurrences may stand at the ends of the text or side
by side, so it is not the occurrences that the text is cut at, but the leftmost ones that do not
overlap.  This file says which these are without the walk, and what the pieces are then: between
them and the separators nothing is lost, and the separator is in none of them.

A separator that is a single character cannot overlap itself.  Then any pieces without it can be put
together and come back from the walk.  Lines are such pieces, but for an empty one at the end.

* `Text.Leftmost` — the places of the leftmost occurrences that do not overlap.
* `Text.Cut` — a text that is cut there, with its pieces.
* `Text.cut_pieces` — the walk cuts there.
* `Text.pieces_intercalate` — pieces put together with a single character come back.
* `Text.lines_feed` — a line and its line feed in front of a text.
-/

namespace ArenaLisp.Text

variable {separator text : List Char}

/-! ## Leftmost occurrences -/

/-- A separator occurs at a place of a text. -/
def OccursAt (separator text : List Char) (place : ℕ) : Prop := separator <+: text.drop place

/-- **The leftmost occurrences that do not overlap**, by their places.  From `start` on, the first
one is the first there is, the search goes on behind its end, and after the last one there is none. -/
inductive Leftmost (separator text : List Char) : ℕ → List ℕ → Prop where
  | last {start : ℕ} : (∀ k, start ≤ k → ¬ OccursAt separator text k) →
      Leftmost separator text start []
  | next {start place : ℕ} {places : List ℕ} : start ≤ place → OccursAt separator text place →
      (∀ k, start ≤ k → k < place → ¬ OccursAt separator text k) →
      Leftmost separator text (place + separator.length) places →
      Leftmost separator text start (place :: places)

/-- There is only one way to find them. -/
lemma Leftmost.unique {start : ℕ} {places others : List ℕ}
    (h : Leftmost separator text start places) (h' : Leftmost separator text start others) :
    places = others := by
  induction h generalizing others with
  | last hnone =>
      cases h' with
      | last _ => rfl
      | next hle hoccurs _ _ => exact absurd hoccurs (hnone _ hle)
  | @next _ place _ hle hoccurs hfirst _ ih =>
      cases h' with
      | last hnone => exact absurd hoccurs (hnone place hle)
      | @next _ other _ hle' hoccurs' hfirst' hrest' =>
          rcases lt_trichotomy other place with hlt | rfl | hgt
          · exact absurd hoccurs' (hfirst other hle' hlt)
          · rw [ih hrest']
          · exact absurd hoccurs (hfirst' place hle hgt)

/-! ## The pieces between them -/

/-- **A text cut at the leftmost occurrences** of a separator.  What stands in front of an occurrence
is a piece if the separator does not occur any earlier; what stands behind is cut in its turn. -/
inductive Cut (separator : List Char) : List Char → List (List Char) → Prop where
  | last {text : List Char} : ¬ separator <:+: text → Cut separator text [text]
  | next {text before after : List Char} {pieces : List (List Char)} :
      text = before ++ separator ++ after →
      (∀ k < before.length, ¬ OccursAt separator text k) →
      Cut separator after pieces → Cut separator text (before :: pieces)

namespace Cut

variable {parts : List (List Char)}

/-- One more character in front, with which no occurrence starts. -/
lemma cons {c : Char} {part : List Char} (hc : ¬ separator <+: c :: text)
    (h : Cut separator text (part :: parts)) : Cut separator (c :: text) ((c :: part) :: parts) := by
  cases h with
  | last hnone => exact .last (by rw [List.infix_cons_iff, not_or]; exact ⟨hc, hnone⟩)
  | next htext hfirst hrest =>
      refine .next (by rw [htext]; rfl) (fun k hk => ?_) hrest
      cases k with
      | zero => exact hc
      | succ k => exact hfirst k (Nat.lt_of_succ_lt_succ hk)

/-- Nothing is lost. -/
lemma intercalate (h : Cut separator text parts) : separator.intercalate parts = text := by
  induction h with
  | last _ => exact List.intercalate_singleton
  | next htext _ hrest ih =>
      rw [htext, ← ih]
      cases hrest <;> exact List.intercalate_cons_cons

/-- The separator is in no piece: where a piece ends, it occurs for the first time. -/
lemma not_infix (hne : separator ≠ []) (h : Cut separator text parts) :
    ∀ part ∈ parts, ¬ separator <:+: part := by
  induction h with
  | last hnone => simpa using hnone
  | next htext hfirst _ ih =>
      refine List.forall_mem_cons.mpr ⟨?_, ih⟩
      rintro ⟨front, back, rfl⟩
      have hlength : 0 < separator.length := List.length_pos_iff.mpr hne
      refine hfirst front.length (by simp; omega) ?_
      simp [OccursAt, htext]

/-- There is one piece more than there are leftmost occurrences. -/
lemma leftmost {start : ℕ} (h : Cut separator (text.drop start) parts) :
    ∃ places, Leftmost separator text start places ∧ parts.length = places.length + 1 := by
  generalize htail : text.drop start = tail at h
  induction h generalizing start with
  | last hnone =>
      refine ⟨[], .last fun k hk hoccurs => hnone ?_, rfl⟩
      have hsuffix : text.drop k <:+ text.drop start := by
        rw [← Nat.add_sub_cancel' hk, ← List.drop_drop]
        exact List.drop_suffix _ _
      rw [← htail]
      exact hoccurs.isInfix.trans hsuffix.isInfix
  | @next tail before after pieces hsplit hfirst _ ih =>
      have hat : ∀ k, OccursAt separator text (start + k) ↔ OccursAt separator tail k := by
        intro k
        rw [OccursAt, OccursAt, ← htail, List.drop_drop]
      have hafter : text.drop (start + before.length + separator.length) = after := by
        rw [Nat.add_assoc, ← List.drop_drop, htail, hsplit, ← List.length_append, List.drop_left]
      obtain ⟨places, hplaces, hlength⟩ := ih hafter
      refine ⟨(start + before.length) :: places, .next (Nat.le_add_right _ _) ?_ ?_ hplaces, ?_⟩
      · rw [hat, OccursAt, hsplit, List.append_assoc, List.drop_left]
        exact List.prefix_append _ _
      · intro k hk hlt
        obtain ⟨k, rfl⟩ := Nat.exists_eq_add_of_le hk
        rw [hat]
        exact hfirst k (by omega)
      · rw [List.length_cons, List.length_cons, hlength]

end Cut

/-! ## The walk -/

lemma cut_piecesFrom (hne : separator ≠ []) : ∀ (text : List Char) (skip : ℕ),
    Cut separator (text.drop skip)
      ((piecesFrom separator skip text).1 :: (piecesFrom separator skip text).2) := by
  intro text
  induction text with
  | nil =>
      intro skip
      rw [List.drop_nil, piecesFrom]
      exact .last (by rwa [List.infix_nil])
  | cons c text ih =>
      intro skip
      cases skip with
      | succ skip => exact ih skip
      | zero =>
          rw [List.drop_zero, piecesFrom]
          split_ifs with hprefix
          · -- an occurrence: the walk goes on behind it
            obtain ⟨after, hafter⟩ := List.isPrefixOf_iff_prefix.mp hprefix
            have hdrop : text.drop (separator.length - 1) = after := by
              obtain ⟨d, rest, rfl⟩ := List.exists_cons_of_ne_nil hne
              rw [← (List.cons.inj hafter).2]
              exact List.drop_left
            have hrest := ih (separator.length - 1)
            rw [hdrop] at hrest
            exact .next hafter.symm (fun k hk => absurd hk (Nat.not_lt_zero k)) hrest
          · exact (ih 0).cons (mt List.isPrefixOf_iff_prefix.mpr hprefix)

/-- **The walk cuts a text at the leftmost occurrences** of the separator. -/
lemma cut_pieces (hne : separator ≠ []) (text : List Char) :
    Cut separator text (pieces separator text) :=
  cut_piecesFrom hne text 0

/-! ## Separators of one character -/

lemma pieces_singleton_cons (c d : Char) (text : List Char) :
    pieces [c] (d :: text) =
      if d = c then [] :: pieces [c] text else (pieces [c] text).modifyHead (d :: ·) := by
  by_cases h : d = c
  · subst h
    simp [pieces, piecesFrom]
  · simp [pieces, piecesFrom, h, Ne.symm h]

lemma pieces_of_notMem {c : Char} {part : List Char} (h : c ∉ part) : pieces [c] part = [part] := by
  induction part with
  | nil => rfl
  | cons d part ih =>
      obtain ⟨hd, hpart⟩ := not_or.mp (mt List.mem_cons.mpr h)
      rw [pieces_singleton_cons, if_neg (Ne.symm hd), ih hpart]
      rfl

/-- The first piece ends at the first occurrence. -/
lemma pieces_append_cons {c : Char} {part : List Char} (h : c ∉ part) (text : List Char) :
    pieces [c] (part ++ c :: text) = part :: pieces [c] text := by
  induction part with
  | nil => rw [List.nil_append, pieces_singleton_cons, if_pos rfl]
  | cons d part ih =>
      obtain ⟨hd, hpart⟩ := not_or.mp (mt List.mem_cons.mpr h)
      rw [List.cons_append, pieces_singleton_cons, if_neg (Ne.symm hd), ih hpart]
      rfl

/-- **Pieces put together come back**, if the character between them is in none of them. -/
lemma pieces_intercalate {c : Char} {parts : List (List Char)} (hne : parts ≠ [])
    (h : ∀ part ∈ parts, c ∉ part) : pieces [c] ([c].intercalate parts) = parts := by
  induction parts with
  | nil => exact absurd rfl hne
  | cons part rest ih =>
      obtain ⟨hpart, hrest⟩ := List.forall_mem_cons.mp h
      cases rest with
      | nil => rw [List.intercalate_singleton, pieces_of_notMem hpart]
      | cons next rest =>
          rw [List.intercalate_cons_cons, List.append_assoc, List.singleton_append,
            pieces_append_cons hpart, ih (by simp) hrest]

/-! ## Lines -/

lemma dropFinalEmpty_cons {parts : List (List Char)} (hne : parts ≠ []) (part : List Char) :
    dropFinalEmpty (part :: parts) = part :: dropFinalEmpty parts := by
  cases part <;> cases parts <;> first | rfl | exact absurd rfl hne

/-- A text without a line feed is a line, unless it is empty. -/
lemma lines_of_notMem {line : List Char} (h : '\n' ∉ line) :
    lines line = if line = [] then [] else [line] := by
  rw [lines, pieces_of_notMem h]
  cases line <;> rfl

/-- A line and its line feed in front of a text. -/
lemma lines_feed {line : List Char} (h : '\n' ∉ line) (text : List Char) :
    lines (line ++ '\n' :: text) = line :: lines text := by
  rw [lines, pieces_append_cons h]
  exact dropFinalEmpty_cons (List.cons_ne_nil _ _) line

/-- Lines, each with its line feed, in front of a text. -/
lemma lines_feeds {whole : List (List Char)} (h : ∀ line ∈ whole, '\n' ∉ line) (text : List Char) :
    lines (whole.flatMap (· ++ ['\n']) ++ text) = whole ++ lines text := by
  induction whole with
  | nil => rfl
  | cons line whole ih =>
      obtain ⟨hline, hwhole⟩ := List.forall_mem_cons.mp h
      rw [List.flatMap_cons, List.append_assoc, List.append_assoc, List.singleton_append,
        lines_feed hline, ih hwhole, List.cons_append]

/-- Every text is made up of lines with their line feeds and a rest without one. -/
lemma exists_feeds (text : List Char) : ∃ (whole : List (List Char)) (rest : List Char),
    (∀ line ∈ whole, '\n' ∉ line) ∧ '\n' ∉ rest ∧
      text = whole.flatMap (· ++ ['\n']) ++ rest := by
  induction text with
  | nil => exact ⟨[], [], by simp⟩
  | cons c text ih =>
      obtain ⟨whole, rest, hwhole, hrest, rfl⟩ := ih
      by_cases hc : c = '\n'
      · exact ⟨[] :: whole, rest, by simpa using hwhole, hrest, by simp [hc]⟩
      · cases whole with
        | nil => exact ⟨[], c :: rest, by simp, by simp [hrest, Ne.symm hc], rfl⟩
        | cons line whole =>
            obtain ⟨hline, hwhole⟩ := List.forall_mem_cons.mp hwhole
            refine ⟨(c :: line) :: whole, rest, ?_, hrest, rfl⟩
            exact List.forall_mem_cons.mpr ⟨by simp [hline, Ne.symm hc], hwhole⟩

end ArenaLisp.Text
