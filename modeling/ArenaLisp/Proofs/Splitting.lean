import ArenaLisp.Library
import ArenaLisp.Proofs.Pieces

/-!
# Texts in parts

Scripts cut texts in two ways: at a separator of their choice, and into lines.  Both ways can be
undone.  The parts of a text, joined by the separator, are the text again; and parts that were joined
by a single character come back, as do lines, whichever of the two line ends each of them had.

* `Builtin.split`, `Builtin.join`, `Builtin.lines` — the builtins that cut and join.
* `LineEnd` — the ends that a line can have.
* **`split_join_inverse`** — cutting at a separator and joining.
* **`lines_recovered`** — lines come back, and nothing but a line feed divides them.
-/

namespace ArenaLisp

namespace Builtin

/-- The builtin that cuts a text at a separator. -/
def split : Builtin := ⟨"str-split", .binary .split⟩

/-- The builtin that joins texts by a separator. -/
def join : Builtin := ⟨"str-join", .binary .join⟩

/-- The builtin that cuts a text into lines. -/
def lines : Builtin := ⟨"str-lines", .unary .lines⟩

variable (env : Handle) (w : World)

lemma split_apply (text : String) {separator : String} (hne : separator ≠ "") :
    split.apply env [.string text, .string separator] w = .ok (splitValue text separator) w := by
  have hempty : separator.isEmpty = false := by simpa using hne
  show (if separator.isEmpty then _ else pure (splitValue text separator) : Run Value) w = _
  rw [hempty]
  rfl

lemma join_apply (separator : String) (parts : List String) :
    join.apply env [.string separator, .list (parts.map .string)] w =
      .ok (.string (joinTexts separator parts)) w := by
  have htexts : expectStrings "str-join" (parts.map .string) = pure parts := by
    induction parts with
    | nil => rfl
    | cons part rest ih => rw [List.map_cons, expectStrings, ih]; rfl
  show (expectStrings "str-join" (parts.map .string) >>= fun texts =>
    pure (.string (joinTexts separator texts)) : Run Value) w = _
  rw [htexts]
  rfl

end Builtin

/-! ## Separators -/

lemma splitValue_eq (text separator : String) :
    splitValue text separator =
      .list (((Text.pieces separator.toList text.toList).map String.ofList).map .string) := by
  rw [splitValue, List.map_map]
  rfl

lemma joinTexts_ofList (separator : String) (parts : List (List Char)) :
    joinTexts separator (parts.map String.ofList) =
      String.ofList (separator.toList.intercalate parts) := by
  rw [joinTexts, List.map_map]
  simp

/-- **Cutting at a separator and joining undo each other.**  A text that is cut at a separator comes
back when its parts are joined; the separator is in none of the parts, and there is one part more
than there are leftmost, non-overlapping occurrences of the separator.  Parts, at least one, that
are joined by a separator of one character come back when the text is cut, if the separator is in
none of them. -/
theorem split_join_inverse (env : Handle) (w : World) :
    (Builtin.split ∈ Library.builtins ∧ Builtin.join ∈ Library.builtins) ∧
    (∀ text separator : String, separator ≠ "" → ∃ (parts : List String) (places : List ℕ),
      Builtin.split.apply env [.string text, .string separator] w =
        .ok (.list (parts.map .string)) w ∧
      Builtin.join.apply env [.string separator, .list (parts.map .string)] w =
        .ok (.string text) w ∧
      (∀ part ∈ parts, ¬ separator.toList <:+: part.toList) ∧
      (∀ others, Text.Leftmost separator.toList text.toList 0 others ↔ others = places) ∧
      parts.length = places.length + 1) ∧
    (∀ (separator : String) (parts : List String), separator.length = 1 → parts ≠ [] →
      (∀ part ∈ parts, ¬ separator.toList <:+: part.toList) → ∃ text : String,
        Builtin.join.apply env [.string separator, .list (parts.map .string)] w =
          .ok (.string text) w ∧
        Builtin.split.apply env [.string text, .string separator] w =
          .ok (.list (parts.map .string)) w) := by
  refine ⟨⟨by decide, by decide⟩, ?_, ?_⟩
  · intro text separator hne
    have hlist : separator.toList ≠ [] := by simpa using hne
    have hcut := Text.cut_pieces hlist text.toList
    obtain ⟨places, hplaces, hlength⟩ : ∃ places,
        Text.Leftmost separator.toList text.toList 0 places ∧
          (Text.pieces separator.toList text.toList).length = places.length + 1 :=
      Text.Cut.leftmost hcut
    refine ⟨(Text.pieces separator.toList text.toList).map String.ofList, places, ?_, ?_, ?_,
      fun others => ⟨fun h => h.unique hplaces, fun h => h ▸ hplaces⟩, by simpa using hlength⟩
    · rw [Builtin.split_apply env w text hne, splitValue_eq]
    · rw [Builtin.join_apply, joinTexts_ofList, hcut.intercalate, String.ofList_toList]
    · simpa using hcut.not_infix hlist
  · intro separator parts hone hparts hnone
    obtain ⟨c, hc⟩ : ∃ c, separator.toList = [c] := by
      rwa [← List.length_eq_one_iff, String.length_toList]
    have hne : separator ≠ "" := by
      rintro rfl
      cases hc
    refine ⟨joinTexts separator parts, Builtin.join_apply env w separator parts, ?_⟩
    have hpieces : Text.pieces [c] ([c].intercalate (parts.map String.toList)) =
        parts.map String.toList := by
      refine Text.pieces_intercalate (by simpa using hparts) ?_
      simpa [hc, List.singleton_infix_iff] using hnone
    rw [Builtin.split_apply env w _ hne, splitValue_eq, joinTexts, String.toList_ofList, hc,
      hpieces]
    simp

/-- A separator that overlaps itself occurs at three places of this text, and the text is cut at two
of them.  Parts may be empty. -/
theorem split_join_inverse_overlapping :
    ("aa" ≠ "" ∧ ∃ places,
      Builtin.split.apply 0 [.string "aaaab", .string "aa"] {} =
        .ok (.list (["", "", "b"].map .string)) {} ∧
      Builtin.join.apply 0 [.string "aa", .list (["", "", "b"].map .string)] {} =
        .ok (.string "aaaab") {} ∧
      Text.Leftmost "aa".toList "aaaab".toList 0 places ∧ places.length = 2) ∧
    (",".length = 1 ∧ (∀ part ∈ ["", "a", ""], ¬ ",".toList <:+: part.toList) ∧
      Builtin.join.apply 0 [.string ",", .list (["", "a", ""].map .string)] {} =
        .ok (.string ",a,") {} ∧
      Builtin.split.apply 0 [.string ",a,", .string ","] {} =
        .ok (.list (["", "a", ""].map .string)) {}) := by
  have hcut : Builtin.split.apply 0 [.string "aaaab", .string "aa"] {} =
      .ok (.list (["", "", "b"].map .string)) {} := rfl
  have hjoined : Builtin.join.apply 0 [.string ",", .list (["", "a", ""].map .string)] {} =
      .ok (.string ",a,") {} := rfl
  have hparts : ∀ part ∈ ["", "a", ""], ¬ ",".toList <:+: part.toList := by decide
  obtain ⟨-, hsplit, hjoin⟩ := split_join_inverse 0 {}
  obtain ⟨parts, places, hsplit, hback, -, hplaces, hlength⟩ := hsplit "aaaab" "aa" (by decide)
  obtain ⟨text, htext, hback'⟩ := hjoin "," ["", "a", ""] (by decide) (by decide) hparts
  obtain rfl : parts = ["", "", "b"] := by
    have hlist := Value.list.inj (EStateM.Result.ok.inj (hsplit.symm.trans hcut)).1
    exact List.map_injective_iff.mpr (fun _ _ h => Value.string.inj h) hlist
  obtain rfl : text = ",a," :=
    Value.string.inj (EStateM.Result.ok.inj (htext.symm.trans hjoined)).1
  refine ⟨⟨by decide, places, hsplit, hback, (hplaces places).mpr rfl, ?_⟩, by decide, hparts, htext,
    hback'⟩
  exact (Nat.succ.inj hlength).symm

/-! ## Lines -/

/-- The two ends that a line can have. -/
inductive LineEnd where
  | feed
  | returnFeed

/-- The characters of a line end. -/
def LineEnd.text : LineEnd → String
  | .feed => "\n"
  | .returnFeed => "\r\n"

/-- Lines with their ends, one after another. -/
def withEnds (lines : List (String × LineEnd)) : String :=
  String.join (lines.map fun line => line.1 ++ line.2.text)

/-- A line that does not reach beyond its end: it has no line feed in it, and no carriage return that
would be taken for part of the end. -/
def Unended (line : String) : Prop := '\n' ∉ line.toList ∧ line.toList.getLast? ≠ some '\r'

instance (line : String) : Decidable (Unended line) := inferInstanceAs (Decidable (_ ∧ _))

namespace LineEnd

/-- A line up to its line feed. -/
def upToFeed (line : String × LineEnd) : List Char :=
  match line.2 with
  | .feed => line.1.toList
  | .returnFeed => line.1.toList ++ ['\r']

lemma upToFeed_text (line : String × LineEnd) :
    (line.1 ++ line.2.text).toList = upToFeed line ++ ['\n'] := by
  obtain ⟨line, ending⟩ := line
  cases ending <;> simp [upToFeed, LineEnd.text]

lemma feed_notMem {line : String × LineEnd} (h : Unended line.1) : '\n' ∉ upToFeed line := by
  obtain ⟨line, ending⟩ := line
  cases ending <;> simp [upToFeed, h.1]

lemma withoutReturn_upToFeed {line : String × LineEnd} (h : Unended line.1) :
    Text.withoutReturn (upToFeed line) = line.1.toList := by
  obtain ⟨line, ending⟩ := line
  cases ending with
  | feed => exact if_neg h.2
  | returnFeed => simp [upToFeed, Text.withoutReturn]

end LineEnd

lemma toList_withEnds (lines : List (String × LineEnd)) :
    (withEnds lines).toList = (lines.map LineEnd.upToFeed).flatMap (· ++ ['\n']) := by
  rw [withEnds, String.toList_join, List.flatMap_map, List.flatMap_map]
  exact List.flatMap_congr fun line _ => LineEnd.upToFeed_text line

/-- Lines with their ends in front of a text. -/
lemma lines_withEnds {lines : List (String × LineEnd)} (h : ∀ line ∈ lines, Unended line.1)
    (text : List Char) :
    (Text.lines ((withEnds lines).toList ++ text)).map Text.withoutReturn =
      lines.map (·.1.toList) ++ (Text.lines text).map Text.withoutReturn := by
  have hfeed : ∀ line ∈ lines.map LineEnd.upToFeed, '\n' ∉ line :=
    List.forall_mem_map.mpr fun line hline => LineEnd.feed_notMem (h line hline)
  rw [toList_withEnds, Text.lines_feeds hfeed, List.map_append, List.map_map]
  congr 1
  exact List.map_congr_left fun line hline => LineEnd.withoutReturn_upToFeed (h line hline)

lemma linesValue_eq (text : String) :
    linesValue text =
      .list (((Text.lines text.toList).map Text.withoutReturn).map fun line =>
        .string (String.ofList line)) := by
  rw [linesValue, List.map_map]
  rfl

/-- **Lines come back**, whichever of the two ends each of them has, and the last one also without an
end if it is not empty.  Nothing but a line feed divides lines: any text consists of stretches
without one, each with its line feed but for the last, and these are its lines.  From each of them
one carriage return is dropped where it ends, and an empty stretch at the end of the text is none. -/
theorem lines_recovered (env : Handle) (w : World) :
    Builtin.lines ∈ Library.builtins ∧
    (∀ lines : List (String × LineEnd), (∀ line ∈ lines, Unended line.1) →
      Builtin.lines.apply env [.string (withEnds lines)] w =
        .ok (.list (lines.map fun line => .string line.1)) w) ∧
    (∀ (lines : List (String × LineEnd)) (last : String), (∀ line ∈ lines, Unended line.1) →
      Unended last → last ≠ "" →
      Builtin.lines.apply env [.string (withEnds lines ++ last)] w =
        .ok (.list (lines.map (fun line => .string line.1) ++ [.string last])) w) ∧
    (∀ text : String, ∃ (whole : List String) (rest : String),
      (∀ line ∈ whole, '\n' ∉ line.toList) ∧ '\n' ∉ rest.toList ∧
      text = String.join (whole.map (· ++ "\n")) ++ rest ∧
      Builtin.lines.apply env [.string text] w =
        .ok (.list ((whole ++ if rest = "" then [] else [rest]).map fun line =>
          .string (String.ofList (Text.withoutReturn line.toList)))) w) := by
  have happly : ∀ text : String,
      Builtin.lines.apply env [.string text] w = .ok (linesValue text) w := fun _ => rfl
  refine ⟨by decide, ?_, ?_, ?_⟩
  · intro lines h
    have hlines := lines_withEnds h []
    rw [List.append_nil] at hlines
    rw [happly, linesValue_eq, hlines, Text.lines_of_notMem (by simp)]
    simp
  · intro lines last h hlast hne
    have hreturn : Text.withoutReturn last.toList = last.toList := if_neg hlast.2
    rw [happly, linesValue_eq, String.toList_append, lines_withEnds h, Text.lines_of_notMem hlast.1]
    simp [hne, hreturn]
  · intro text
    obtain ⟨whole, rest, hwhole, hrest, htext⟩ := Text.exists_feeds text.toList
    refine ⟨whole.map String.ofList, String.ofList rest, by simpa using hwhole, by simpa using hrest,
      ?_, ?_⟩
    · rw [← String.toList_inj, htext]
      simp [List.flatMap_map, Function.comp_def]
    · have hlast : (if String.ofList rest = "" then [] else [String.ofList rest]) =
          (if rest = [] then [] else [rest]).map String.ofList := by
        cases rest <;> simp
      rw [happly, linesValue_eq, htext, Text.lines_feeds hwhole, Text.lines_of_notMem hrest, hlast,
        ← List.map_append]
      simp [Function.comp_def]

/-- Both ends, empty lines, a carriage return inside a line, and other characters that are taken for
line ends elsewhere. -/
theorem lines_recovered_mixed :
    let lines := [("a\rb", .returnFeed), ("", .feed), ("c\x0cd\u0085e\u2028f", .feed),
      ("", .returnFeed)]
    (∀ line ∈ lines, Unended line.1) ∧ Unended "g" ∧ "g" ≠ "" ∧
    Builtin.lines.apply 0 [.string (withEnds lines)] {} =
      .ok (.list (lines.map fun line => .string line.1)) {} ∧
    Builtin.lines.apply 0 [.string (withEnds lines ++ "g")] {} =
      .ok (.list (lines.map (fun line => .string line.1) ++ [.string "g"])) {} := by
  intro lines
  have hlines : ∀ line ∈ lines, Unended line.1 := by decide
  have hlast : Unended "g" := by decide
  obtain ⟨-, hended, hopen, -⟩ := lines_recovered 0 {}
  exact ⟨hlines, hlast, by decide, hended lines hlines, hopen lines "g" hlines hlast (by decide)⟩

end ArenaLisp
