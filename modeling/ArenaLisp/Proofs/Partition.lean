import ArenaLisp.Proofs.Scripts

/-!
# The lines of a script

A session on a script file cuts it into sources line by line, and decides after each line whether
the source goes on.  No text is too malformed for that: a text with too many parentheses, or with a
character that starts no token, is cut all the same.  The sources are ranges of lines in order, none
shares a line with another, and what lies between them is blank.

The loop carries a flag and a list.  The flag says that the latest source of the list is still open,
so that the next line is added to it; that there is such a source is a matter of blank lines, which
are never open.

* `LineRange`, `LineRange.Sound` — a range of lines, and what makes it a source.
* **`Partition`** — ranges that no line is lost between.
* `Gathering.Divides` — the loop between two lines.
* `Gathering.Divides.add`, `Gathering.Divides.addAll` — one line, and any number of lines.
* **`session_partitions_script`** — the queue of a session on any script file.
-/

namespace ArenaLisp

/-- What is cut at line feeds holds none. -/
lemma Text.feed_notMem_of_mem_lines {text line : List Char} (h : line ∈ lines text) :
    '\n' ∉ line := by
  obtain ⟨whole, rest, hwhole, hrest, rfl⟩ := exists_feeds text
  rw [lines_feeds hwhole, lines_of_notMem hrest, List.mem_append] at h
  rcases h with h | h
  · exact hwhole line h
  · split_ifs at h
    · cases h
    · rwa [List.mem_singleton.mp h]

/-! ## Ranges of lines -/

/-- Some lines in a row, given by the numbers of the first and the last, counted from one. -/
structure LineRange where
  first : Nat
  last : Nat

namespace LineRange

/-- Whether a range holds the line with a number. -/
def Holds (r : LineRange) (number : Nat) : Prop := r.first ≤ number ∧ number ≤ r.last

/-- The lines of a range, with a line feed between any two. -/
def text (lines : List (List Char)) (r : LineRange) : List Char :=
  Text.joinLines ((lines.take r.last).drop (r.first - 1))

/-- The source that a range of lines makes. -/
def source (lines : List (List Char)) (r : LineRange) : Source := ⟨r.text lines, r.first⟩

/-- A range of lines that makes a source: the first line is not blank, and at the end of each line
but the last, a list or a string is open. -/
structure Sound (r : LineRange) (lines : List (List Char)) : Prop where
  first_pos : 1 ≤ r.first
  first_le : r.first ≤ r.last
  last_le : r.last ≤ lines.length
  starts : ∀ line, lines[r.first - 1]? = some line → Text.isBlankLine line = false
  grows : ∀ m, r.first ≤ m → m < r.last → isOpen (LineRange.text lines ⟨r.first, m⟩) = true

/-- The text of a single line. -/
lemma text_single {lines : List (List Char)} {k : Nat} {line : List Char}
    (hline : lines[k]? = some line) : LineRange.text lines ⟨k + 1, k + 1⟩ = line := by
  have hk : (lines.take k).length = k :=
    List.length_take_of_le (Nat.le_of_lt (List.getElem?_eq_some_iff.mp hline).1)
  rw [text, Nat.add_sub_cancel, List.take_add_one, hline, Option.toList_some,
    List.drop_left' hk, Text.joinLines]

/-- One more line. -/
lemma text_succ {lines : List (List Char)} {r : LineRange} (h : r.Sound lines) {line : List Char}
    (hline : lines[r.last]? = some line) :
    LineRange.text lines ⟨r.first, r.last + 1⟩ = r.text lines ++ '\n' :: line := by
  have hlast := h.last_le
  have hpos := h.first_pos
  have hle := h.first_le
  have hne : (lines.take r.last).drop (r.first - 1) ≠ [] := by
    rw [ne_eq, List.drop_eq_nil_iff, List.length_take]
    omega
  have hshort : r.first - 1 ≤ (lines.take r.last).length := by
    rw [List.length_take]
    omega
  rw [text, List.take_add_one, hline, Option.toList_some,
    List.drop_append_of_le_length hshort, Text.joinLines_concat hne, text]

lemma sound_single {lines : List (List Char)} {k : Nat} {line : List Char}
    (hline : lines[k]? = some line) (hblank : Text.isBlankLine line = false) :
    LineRange.Sound ⟨k + 1, k + 1⟩ lines where
  first_pos := Nat.le_add_left 1 k
  first_le := Nat.le_refl _
  last_le := (List.getElem?_eq_some_iff.mp hline).1
  starts other hother := by
    rw [Nat.add_sub_cancel, hline] at hother
    cases hother
    exact hblank
  grows m hfirst hlast := absurd hfirst (Nat.not_le.mpr hlast)

/-- A source that is open goes on with the next line. -/
lemma Sound.succ {lines : List (List Char)} {r : LineRange} (h : r.Sound lines)
    (hlt : r.last < lines.length) (hopen : isOpen (r.text lines) = true) :
    LineRange.Sound ⟨r.first, r.last + 1⟩ lines where
  first_pos := h.first_pos
  first_le := Nat.le_succ_of_le h.first_le
  last_le := hlt
  starts := h.starts
  grows m hfirst hlast := by
    rcases Nat.lt_or_eq_of_le (Nat.le_of_lt_succ hlast) with hm | rfl
    · exact h.grows m hfirst hm
    · exact hopen

end LineRange

/-- **Ranges that divide the lines of a text into sources**: they are in order and share no line,
what no range holds is blank, and all of them but the last are complete. -/
structure Partition (lines : List (List Char)) (ranges : List LineRange) : Prop where
  sound : ∀ r ∈ ranges, r.Sound lines
  apart : ranges.Pairwise fun r later => r.last < later.first
  covers : ∀ n line, lines[n]? = some line →
    Text.isBlankLine line = true ∨ ∃ r ∈ ranges, r.Holds (n + 1)
  complete : ∀ r ∈ ranges.dropLast, isOpen (r.text lines) = false

/-! ## Line by line -/

/-- The loop when it has seen the first `k` lines of a text: the sources are those of some ranges,
the latest first.  The flag is set exactly if the latest of them is open, and then it reaches to the
last line seen. -/
structure Gathering.Divides (g : Gathering) (lines : List (List Char)) (k : Nat)
    (ranges : List LineRange) : Prop where
  sources_eq : g.sources = ranges.map (LineRange.source lines)
  sound : ∀ r ∈ ranges, r.Sound lines
  reach : ∀ r ∈ ranges, r.last ≤ k
  apart : ranges.Pairwise fun r earlier => earlier.last < r.first
  covers : ∀ n line, n < k → lines[n]? = some line →
    Text.isBlankLine line = true ∨ ∃ r ∈ ranges, r.Holds (n + 1)
  settled : ∀ r ∈ ranges, isOpen (r.text lines) = true → g.continuing = true ∧ r.last = k
  latest : g.continuing = true → ∃ r earlier, ranges = r :: earlier ∧ r.last = k ∧
    isOpen (r.text lines) = true

namespace Gathering.Divides

variable {g : Gathering} {lines : List (List Char)} {k : Nat} {ranges : List LineRange}

lemma start (lines : List (List Char)) : Gathering.Divides {} lines 0 [] where
  sources_eq := rfl
  sound := by simp
  reach := by simp
  apart := .nil
  covers := by simp
  settled := by simp
  latest h := Bool.noConfusion h

/-- The line with the next number is held by a range, or is blank. -/
lemma covers_succ {line : List Char} {ranges' : List LineRange} (h : g.Divides lines k ranges)
    (hline : lines[k]? = some line)
    (hkeep : ∀ n, (∃ r ∈ ranges, r.Holds n) → ∃ r ∈ ranges', r.Holds n)
    (hnew : Text.isBlankLine line = true ∨ ∃ r ∈ ranges', r.Holds (k + 1)) :
    ∀ n other, n < k + 1 → lines[n]? = some other →
      Text.isBlankLine other = true ∨ ∃ r ∈ ranges', r.Holds (n + 1) := by
  intro n other hn hother
  rcases Nat.lt_or_eq_of_le (Nat.le_of_lt_succ hn) with hn | rfl
  · exact (h.covers n other hn hother).imp_right (hkeep (n + 1))
  · rw [hline] at hother
    cases hother
    exact hnew

/-- With the flag not set, all sources are complete. -/
lemma not_open (h : g.Divides lines k ranges) (hclosed : g.continuing = false) {r : LineRange}
    (hr : r ∈ ranges) : isOpen (r.text lines) ≠ true := by
  intro hopen
  rw [(h.settled r hr hopen).1] at hclosed
  cases hclosed

/-- A blank line behind a complete source. -/
lemma add_blank {line : List Char} (h : g.Divides lines k ranges)
    (hline : lines[k]? = some line) (hclosed : g.continuing = false)
    (hblank : Text.isBlankLine line = true) :
    (g.add (k + 1) line).2.Divides lines (k + 1) ranges := by
  have hadd : (g.add (k + 1) line).2 = ⟨g.sources, false⟩ := by
    simp [Gathering.add, hclosed, hblank, isOpen_blank hblank]
  rw [hadd]
  exact {
    sources_eq := h.sources_eq
    sound := h.sound
    reach := fun r hr => Nat.le_succ_of_le (h.reach r hr)
    apart := h.apart
    covers := h.covers_succ hline (fun _ => id) (Or.inl hblank)
    settled := fun r hr hopen => absurd hopen (h.not_open hclosed hr)
    latest := fun hopen => Bool.noConfusion hopen }

/-- A line that starts a source. -/
lemma add_first {line : List Char} (h : g.Divides lines k ranges)
    (hline : lines[k]? = some line) (hclosed : g.continuing = false)
    (hblank : Text.isBlankLine line = false) :
    (g.add (k + 1) line).2.Divides lines (k + 1) (⟨k + 1, k + 1⟩ :: ranges) := by
  have hadd : (g.add (k + 1) line).2 = ⟨⟨line, k + 1⟩ :: g.sources, isOpen line⟩ := by
    simp [Gathering.add, hclosed, hblank]
  have htext := LineRange.text_single hline
  rw [hadd]
  exact {
    sources_eq := by rw [List.map_cons, LineRange.source, htext, h.sources_eq]
    sound := List.forall_mem_cons.mpr ⟨LineRange.sound_single hline hblank, h.sound⟩
    reach := List.forall_mem_cons.mpr
      ⟨Nat.le_refl _, fun r hr => Nat.le_succ_of_le (h.reach r hr)⟩
    apart := List.pairwise_cons.mpr ⟨fun r hr => Nat.lt_succ_of_le (h.reach r hr), h.apart⟩
    covers := h.covers_succ hline (fun _ => List.exists_mem_cons_of_exists)
      (Or.inr ⟨_, List.mem_cons_self, Nat.le_refl _, Nat.le_refl _⟩)
    settled := List.forall_mem_cons.mpr ⟨fun hopen => ⟨by rwa [htext] at hopen, rfl⟩,
      fun r hr hopen => absurd hopen (h.not_open hclosed hr)⟩
    latest := fun hopen => ⟨_, ranges, rfl, rfl, by rwa [htext]⟩ }

/-- A line that an open source goes on with. -/
lemma add_next {line : List Char} {r : LineRange} {earlier : List LineRange}
    (h : g.Divides lines k (r :: earlier)) (hline : lines[k]? = some line)
    (hcontinuing : g.continuing = true) (hlast : r.last = k)
    (hopen : isOpen (r.text lines) = true) :
    (g.add (k + 1) line).2.Divides lines (k + 1) (⟨r.first, k + 1⟩ :: earlier) := by
  subst hlast
  have hr := h.sound r List.mem_cons_self
  have hearlier : ∀ other ∈ earlier, other.last < r.first := (List.pairwise_cons.mp h.apart).1
  have htext := LineRange.text_succ hr hline
  have hadd : (g.add (r.last + 1) line).2 =
      ⟨⟨r.text lines ++ '\n' :: line, r.first⟩ :: earlier.map (LineRange.source lines),
        isOpen (r.text lines ++ '\n' :: line)⟩ := by
    simp [Gathering.add, hcontinuing, h.sources_eq, LineRange.source]
  rw [hadd]
  exact {
    sources_eq := by rw [List.map_cons, LineRange.source, htext]
    sound := List.forall_mem_cons.mpr
      ⟨hr.succ (List.getElem?_eq_some_iff.mp hline).1 hopen,
        fun other hother => h.sound other (List.mem_cons_of_mem _ hother)⟩
    reach := List.forall_mem_cons.mpr ⟨Nat.le_refl _,
      fun other hother => Nat.le_succ_of_le (h.reach other (List.mem_cons_of_mem _ hother))⟩
    apart := List.pairwise_cons.mpr ⟨hearlier, (List.pairwise_cons.mp h.apart).2⟩
    covers := by
      refine h.covers_succ hline ?_
        (Or.inr ⟨_, List.mem_cons_self, Nat.le_succ_of_le hr.first_le, Nat.le_refl _⟩)
      rintro n ⟨other, hother, hholds⟩
      rcases List.mem_cons.mp hother with rfl | hother
      · exact ⟨_, List.mem_cons_self, hholds.1, Nat.le_succ_of_le hholds.2⟩
      · exact ⟨other, List.mem_cons_of_mem _ hother, hholds⟩
    settled := List.forall_mem_cons.mpr ⟨fun hopen => ⟨by rwa [htext] at hopen, rfl⟩,
      fun other hother hopen => by
        -- an open source reaches to the last line seen, which the latest one holds
        have hreach := (h.settled other (List.mem_cons_of_mem _ hother) hopen).2
        have hlt := hearlier other hother
        have hle := hr.first_le
        omega⟩
    latest := fun hopen => ⟨_, earlier, rfl, rfl, by rwa [htext]⟩ }

/-- **One line.** -/
lemma add {line : List Char} (h : g.Divides lines k ranges) (hline : lines[k]? = some line) :
    ∃ ranges', (g.add (k + 1) line).2.Divides lines (k + 1) ranges' := by
  cases hcontinuing : g.continuing with
  | true =>
      obtain ⟨r, earlier, rfl, hlast, hopen⟩ := h.latest hcontinuing
      exact ⟨_, h.add_next hline hcontinuing hlast hopen⟩
  | false =>
      cases hblank : Text.isBlankLine line with
      | true => exact ⟨_, h.add_blank hline hcontinuing hblank⟩
      | false => exact ⟨_, h.add_first hline hcontinuing hblank⟩

/-- **Any number of lines.**  The induction is on the lines to come. -/
lemma addAll : ∀ (rest : List (List Char)) {g : Gathering} {k : Nat} {ranges : List LineRange},
    g.Divides lines k ranges → rest <+: lines.drop k →
      ∃ ranges', (g.addAll (k + 1) rest).Divides lines (k + rest.length) ranges' := by
  intro rest
  induction rest with
  | nil => exact fun h _ => ⟨_, h⟩
  | cons line rest ih =>
      rintro g k ranges h ⟨others, hothers⟩
      have hline : lines[k]? = some line := by
        rw [← Nat.add_zero k, ← List.getElem?_drop, ← hothers]
        rfl
      have hrest : rest <+: lines.drop (k + 1) := by
        rw [← List.tail_drop, ← hothers]
        exact ⟨others, rfl⟩
      obtain ⟨ranges₁, h₁⟩ := h.add hline
      obtain ⟨ranges', h'⟩ := ih h₁ hrest
      rw [List.length_cons, Nat.add_comm rest.length, ← Nat.add_assoc]
      exact ⟨ranges', h'⟩

/-- Whenever the flag is set, there is a source for the next line to go on with. -/
lemma sources_ne_nil (h : g.Divides lines k ranges) (hcontinuing : g.continuing = true) :
    g.sources ≠ [] := by
  obtain ⟨r, earlier, rfl, -, -⟩ := h.latest hcontinuing
  rw [h.sources_eq]
  exact List.cons_ne_nil _ _

/-- At the end of the text, the ranges in order divide its lines. -/
lemma partition (h : g.Divides lines lines.length ranges) : Partition lines ranges.reverse where
  sound r hr := h.sound r (List.mem_reverse.mp hr)
  apart := List.pairwise_reverse.mpr h.apart
  covers n line hline := by
    simpa using h.covers n line (List.getElem?_eq_some_iff.mp hline).1 hline
  complete r hr := by
    cases ranges with
    | nil => cases hr
    | cons latest earlier =>
        rw [List.reverse_cons, List.dropLast_concat, List.mem_reverse] at hr
        by_contra hopen
        -- the source ends before the latest one begins, so it cannot reach to the end
        have hreach := (h.settled r (List.mem_cons_of_mem _ hr) (by simpa using hopen)).2
        have hlt := (List.pairwise_cons.mp h.apart).1 r hr
        have hle := (h.sound latest List.mem_cons_self).first_le
        have hlast := h.reach latest List.mem_cons_self
        omega

end Gathering.Divides

/-- **A session cuts its file into sources without losing a line.**  On any script file that can be
opened, whatever its text, the queue of the session holds the sources of some ranges of its lines,
each under the number of its first line, and these numbers grow.  The lines are the text cut at its
line feeds, and the ranges divide them: no two ranges share a line, and what none of them holds is
blank.  Each starts with a line that is not blank and is open at the end of every line but its last;
only the last range may be open there too.  And whenever a line is to be added to the source before
it, there is such a source. -/
theorem session_partitions_script (s : Settings) (env : Handle) (report : Report)
    (interactive : Bool) {files : FileTree} {path : String} {text : List Char}
    (hpath : path ≠ commandLineName) (hnull : path.toList.contains (Char.ofNat 0) = false)
    (htext : files.readText path = .ok text) :
    ((∀ line ∈ Text.lines text, '\n' ∉ line) ∧
      (text = Text.joinLines (Text.lines text) ∨
        text = Text.joinLines (Text.lines text) ++ ['\n'])) ∧
    (∃ session report' ranges,
      Session.start files report env s path interactive = (.ok session, report') ∧
      session.queue = ranges.map (fun r : LineRange =>
        ((r.first : Int), String.ofList (r.text (Text.lines text)))) ∧
      (Ordered.keys session.queue).Pairwise (· < ·) ∧
      Partition (Text.lines text) ranges) ∧
    ∀ k, (Gathering.addAll {} 1 ((Text.lines text).take k)).continuing = true →
      (Gathering.addAll {} 1 ((Text.lines text).take k)).sources ≠ [] := by
  have hstart := Gathering.Divides.start (Text.lines text)
  refine ⟨⟨fun _ => Text.feed_notMem_of_mem_lines, Text.joinLines_lines text⟩, ?_, ?_⟩
  · obtain ⟨ranges, hranges⟩ := hstart.addAll (Text.lines text) (List.prefix_refl _)
    rw [Nat.zero_add (Text.lines text).length] at hranges
    have hpartition := hranges.partition
    have hqueue : (sources text).map (fun s => ((s.line : Int), String.ofList s.text)) =
        ranges.reverse.map fun r =>
          ((r.first : Int), String.ofList (r.text (Text.lines text))) := by
      rw [sources, hranges.sources_eq, ← List.map_reverse, List.map_map]
      rfl
    refine ⟨_, _, ranges.reverse, Session.start_sources interactive s env report hpath hnull htext,
      hqueue, ?_, hpartition⟩
    rw [hqueue, Ordered.keys, List.map_map, List.pairwise_map]
    exact hpartition.apart.imp_of_mem fun hr _ hlt =>
      Int.ofNat_lt.mpr (Nat.lt_of_le_of_lt (hpartition.sound _ hr).first_le hlt)
  · intro k hcontinuing
    obtain ⟨ranges, hranges⟩ := hstart.addAll _ (List.take_prefix k (Text.lines text))
    exact hranges.sources_ne_nil hcontinuing

/-- A list over three lines, a blank line, a parenthesis too many, and a string that is never
closed: three sources, of which the last is still open. -/
theorem session_partitions_script_malformed :
    let files : FileTree := { entries := [(["a"], .file [0x28, 0x0A, 0x20, 0x0A, 0x61, 0x29, 0x0A,
      0x0A, 0x29, 0x78, 0x0A, 0x22, 0x73, 0x0A])] }
    let lines : List (List Char) := [['('], [' '], ['a', ')'], [], [')', 'x'], ['"', 's']]
    Session.load files "a" = .ok [⟨['(', '\n', ' ', '\n', 'a', ')'], 1⟩, ⟨[')', 'x'], 5⟩,
      ⟨['"', 's'], 6⟩] ∧
    (∃ session report' ranges,
      Session.start files {} 0 {} "a" false = (.ok session, report') ∧
      session.queue = ranges.map (fun r : LineRange =>
        ((r.first : Int), String.ofList (r.text lines))) ∧
      (Ordered.keys session.queue).Pairwise (· < ·) ∧ Partition lines ranges) ∧
    (Gathering.addAll {} 1 (lines.take 2)).sources ≠ [] := by
  intro files lines
  have htext : files.readText "a" = .ok ['(', '\n', ' ', '\n', 'a', ')', '\n', '\n', ')', 'x', '\n',
      '"', 's', '\n'] := rfl
  obtain ⟨-, hqueue, hpop⟩ :=
    session_partitions_script {} 0 {} false (by decide) (by decide) htext
  exact ⟨rfl, hqueue, hpop 2 (by decide)⟩

end ArenaLisp
