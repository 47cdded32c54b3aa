import ArenaLisp.Proofs.Cutting

/-!
# The grammar of tokens

A source that can be cut into tokens is a row of *lexemes* with *gaps* around them.  A lexeme spells
one token: a parenthesis, a string between its quotes, a symbol.  A gap is made of blanks and
comments.  The lexer knows nothing of this; it walks over the characters one by one.  Still it finds
exactly the sources that the grammar allows, and finds their tokens.

* `Lexeme`, `Gap`, `Parted` — the parts of a source, and how they may follow one another.
* **`Sentence`** — a source with its tokens.
* `Lexer.eventsFrom_gap`, `Lexer.eventsFrom_lexeme` — what the lexer makes of the parts.
* `Lexer.Continues` — what a source must still hold when the lexer is in the middle of something.
* **`Lexer.events_eq_iff_sentence`** — the lexer accepts exactly the sentences.
-/

namespace ArenaLisp

open Lexer

/-! ## Lexemes and gaps -/

/-- The characters between the quotes of a string, and the text they stand for.  A backslash may
stand before any character, must stand before a quote or a backslash, and is dropped. -/
inductive Escaped : List Char → List Char → Prop where
  | nil : Escaped [] []
  | plain {c : Char} {body text : List Char} :
      c ≠ '"' → c ≠ '\\' → Escaped body text → Escaped (c :: body) (c :: text)
  | escape {c : Char} {body text : List Char} :
      Escaped body text → Escaped ('\\' :: c :: body) (c :: text)

/-- The spelling of a token. -/
inductive Lexeme : List Char → Token → Prop where
  | opening : Lexeme ['('] .openParen
  | closing : Lexeme [')'] .closeParen
  | string {body text : List Char} :
      Escaped body text → Lexeme ('"' :: (body ++ ['"'])) ⟨.string, String.ofList text⟩
  | symbol {c : Char} {cs : List Char} :
      c ≠ '#' → (∀ d ∈ c :: cs, isSymbolChar d = true) →
      Lexeme (c :: cs) ⟨.symbol, String.ofList (c :: cs)⟩

/-- What may follow a comment: the end of the source, or a blank that is a control character. -/
def EndsComment : List Char → Prop
  | [] => True
  | c :: _ => isControl c = true ∧ Text.isBlank c = true

/-- What may stand between two lexemes, before `rest`: blanks and comments.  A comment is a `#` and
what follows it up to the next control character. -/
inductive Gap (rest : List Char) : List Char → Prop where
  | nil : Gap rest []
  | blank {c : Char} {gap : List Char} : Text.isBlank c = true → Gap rest gap → Gap rest (c :: gap)
  | comment {body gap : List Char} :
      (∀ c ∈ body, isControl c = false) → EndsComment (gap ++ rest) → Gap rest gap →
      Gap rest ('#' :: (body ++ gap))

/-- How a symbol is parted from what follows it: an empty gap will do before a parenthesis and at
the end of the source, and any other gap starts with a blank. -/
def Parted : List Char → List Char → Prop
  | [], rest => rest = [] ∨ ∃ more, rest = '(' :: more ∨ rest = ')' :: more
  | c :: _, _ => Text.isBlank c = true

/-- Lexemes, each with the gap behind it, and the tokens they spell. -/
inductive Spelled : List Char → List Token → Prop where
  | nil : Spelled [] []
  | cons {lexeme gap rest : List Char} {token : Token} {tokens : List Token} :
      Lexeme lexeme token → Gap rest gap → (token.kind = .symbol → Parted gap rest) →
      Spelled rest tokens → Spelled (lexeme ++ (gap ++ rest)) (token :: tokens)

/-- **A source with its tokens**: a gap, then lexemes, each with the gap behind it. -/
def Sentence (source : List Char) (tokens : List Token) : Prop :=
  ∃ gap rest, source = gap ++ rest ∧ Gap rest gap ∧ Spelled rest tokens

/-! ## Kinds of characters -/

lemma Text.isBlank_of_isSymbolChar {c : Char} (h : isSymbolChar c = true) :
    Text.isBlank c = false := by
  simp only [isSymbolChar, Bool.and_eq_true, decide_eq_true_eq] at h
  simp only [Text.isBlank, Text.blankRanges, Text.inRanges, Bool.and_eq_false_iff,
    Bool.or_eq_false_iff, decide_eq_false_iff_not]
  omega

lemma isControl_of_isSymbolChar {c : Char} (h : isSymbolChar c = true) : isControl c = false := by
  simp only [isSymbolChar, Bool.and_eq_true, decide_eq_true_eq] at h
  simp only [isControl, Bool.or_eq_false_iff, decide_eq_false_iff_not]
  omega

/-- A lexeme starts with a character that starts no gap. -/
lemma Lexeme.head {lexeme : List Char} {token : Token} (h : Lexeme lexeme token) :
    ∃ c more, lexeme = c :: more ∧ Text.isBlank c = false ∧ c ≠ '#' := by
  cases h with
  | opening => exact ⟨'(', [], rfl, by decide, by decide⟩
  | closing => exact ⟨')', [], rfl, by decide, by decide⟩
  | string _ => exact ⟨'"', _, rfl, by decide, by decide⟩
  | @symbol c cs hc hs => exact ⟨c, cs, rfl, Text.isBlank_of_isSymbolChar (hs c (by simp)), hc⟩

lemma Spelled.isBlank_head {c : Char} {rest : List Char} {tokens : List Token}
    (h : Spelled (c :: rest) tokens) : Text.isBlank c = false := by
  generalize htext : c :: rest = text at h
  cases h with
  | nil => cases htext
  | cons hl _ _ _ =>
      obtain ⟨d, more, rfl, hd, _⟩ := hl.head
      rw [List.cons_append, List.cons.injEq] at htext
      rw [htext.1]
      exact hd

/-- The text behind a symbol, gap or no gap: there is none, or it starts with a parenthesis or a
blank. -/
def EndsSymbol : List Char → Prop
  | [] => True
  | c :: _ => c = '(' ∨ c = ')' ∨ Text.isBlank c = true

lemma Parted.endsSymbol {gap rest : List Char} (h : Parted gap rest) :
    EndsSymbol (gap ++ rest) := by
  cases gap with
  | nil =>
      rcases h with rfl | ⟨more, rfl | rfl⟩
      · trivial
      · exact Or.inl rfl
      · exact Or.inr (Or.inl rfl)
  | cons c gap => exact Or.inr (Or.inr h)

lemma EndsSymbol.parted {gap rest : List Char} {tokens : List Token}
    (h : EndsSymbol (gap ++ rest)) (hg : Gap rest gap) (hs : Spelled rest tokens) :
    Parted gap rest := by
  cases hg with
  | nil =>
      cases rest with
      | nil => exact Or.inl rfl
      | cons c rest =>
          rcases h with rfl | rfl | h
          · exact Or.inr ⟨rest, Or.inl rfl⟩
          · exact Or.inr ⟨rest, Or.inr rfl⟩
          · rw [hs.isBlank_head] at h
            cases h
  | blank hc _ => exact hc
  | comment _ _ _ =>
      rcases h with h | h | h
      · exact absurd h (by decide)
      · exact absurd h (by decide)
      · exact absurd h (by decide)

/-! ## What the lexer makes of the parts -/

namespace Lexer

@[simp] lemma afterAll_nil (p : Position) : p.afterAll [] = p := rfl

@[simp] lemma afterAll_cons (p : Position) (c : Char) (text : List Char) :
    p.afterAll (c :: text) = (p.after c).afterAll text := rfl

/-- A step that completes nothing. -/
lemma eventsFrom_of_step {p : Position} {mode mode' : Mode} {c : Char} {rest : List Char}
    {events : List Event} (h : step c (p.after c) mode = (events, mode')) :
    eventsFrom p mode (c :: rest) = events ++ eventsFrom (p.after c) mode' rest := by
  rw [eventsFrom_cons, h]

lemma eventsFrom_comment {body : List Char} (h : ∀ c ∈ body, isControl c = false)
    (rest : List Char) : ∀ p : Position,
    eventsFrom p .comment (body ++ rest) = eventsFrom (p.afterAll body) .comment rest := by
  induction body with
  | nil => exact fun _ => rfl
  | cons c body ih =>
      intro p
      have hstep : step c (p.after c) .comment = ([], .comment) := by
        simp [step, h c (by simp)]
      rw [List.cons_append, eventsFrom_of_step hstep, List.nil_append, afterAll_cons]
      exact ih (fun d hd => h d (by simp [hd])) _

/-- Where a comment may end, the lexer might as well be in a gap. -/
lemma eventsFrom_endsComment {rest : List Char} (h : EndsComment rest) (p : Position) :
    eventsFrom p .comment rest = eventsFrom p .gap rest := by
  cases rest with
  | nil => rfl
  | cons c rest => simp [eventsFrom_cons, step, h.1]

lemma eventsFrom_gap {rest gap : List Char} (h : Gap rest gap) : ∀ p : Position,
    eventsFrom p .gap (gap ++ rest) = eventsFrom (p.afterAll gap) .gap rest := by
  induction h with
  | nil => exact fun _ => rfl
  | @blank c gap hc _ ih =>
      intro p
      have hstep : step c (p.after c) .gap = ([], .gap) := by simp [step, stepGap, hc]
      rw [List.cons_append, eventsFrom_of_step hstep, List.nil_append, afterAll_cons]
      exact ih _
  | @comment body gap hbody hends _ ih =>
      intro p
      have hstep : step '#' (p.after '#') .gap = ([], .comment) := rfl
      rw [List.cons_append, eventsFrom_of_step hstep, List.nil_append, List.append_assoc,
        eventsFrom_comment hbody, eventsFrom_endsComment hends, ih, afterAll_cons]
      simp only [Position.afterAll, List.foldl_append]

lemma eventsFrom_string {body text : List Char} (h : Escaped body text) (opened : Position)
    (rest : List Char) : ∀ (p : Position) (collected : List Char),
    eventsFrom p (.string opened collected) (body ++ '"' :: rest) =
      .ok (stringToken (text.reverse ++ collected)) ::
        eventsFrom (p.afterAll (body ++ ['"'])) .gap rest := by
  induction h with
  | nil => exact fun p _ => eventsFrom_of_step rfl
  | @plain c body text hq hb _ ih =>
      intro p collected
      have hstep : step c (p.after c) (.string opened collected) =
          ([], .string opened (c :: collected)) := by simp [step, hq, hb]
      rw [List.cons_append, eventsFrom_of_step hstep, List.nil_append, ih]
      simp
  | @escape c body text _ ih =>
      intro p collected
      have hslash : step '\\' (p.after '\\') (.string opened collected) =
          ([], .escape opened collected) := rfl
      have hstep : step c ((p.after '\\').after c) (.escape opened collected) =
          ([], .string opened (c :: collected)) := rfl
      rw [List.cons_append, List.cons_append, eventsFrom_of_step hslash, List.nil_append,
        eventsFrom_of_step hstep, List.nil_append, ih]
      simp

lemma eventsFrom_symbol {cs : List Char} (h : ∀ c ∈ cs, isSymbolChar c = true)
    (rest : List Char) : ∀ (p : Position) (collected : List Char),
    eventsFrom p (.symbol collected) (cs ++ rest) =
      eventsFrom (p.afterAll cs) (.symbol (cs.reverse ++ collected)) rest := by
  induction cs with
  | nil => exact fun _ _ => rfl
  | cons c cs ih =>
      intro p collected
      have hc := h c (by simp)
      have hstep : step c (p.after c) (.symbol collected) = ([], .symbol (c :: collected)) := by
        have hopen : c ≠ '(' := by rintro rfl; exact absurd hc (by decide)
        have hclose : c ≠ ')' := by rintro rfl; exact absurd hc (by decide)
        simp [step, hc, Text.isBlank_of_isSymbolChar hc, hopen, hclose]
      rw [List.cons_append, eventsFrom_of_step hstep, List.nil_append,
        ih (fun d hd => h d (by simp [hd]))]
      simp

/-- A symbol ends before a blank, before a parenthesis and at the end of the source. -/
lemma eventsFrom_endsSymbol {rest : List Char} (h : EndsSymbol rest) (p : Position)
    (collected : List Char) :
    eventsFrom p (.symbol collected) rest =
      .ok (symbolToken collected) :: eventsFrom p .gap rest := by
  cases rest with
  | nil => rfl
  | cons c rest =>
      rcases h with rfl | rfl | hc
      · rfl
      · rfl
      · simp [eventsFrom_cons, step, stepGap, hc]

/-- A lexeme is read as its token. -/
lemma eventsFrom_lexeme {lexeme rest : List Char} {token : Token} (h : Lexeme lexeme token)
    (hends : token.kind = .symbol → EndsSymbol rest) (p : Position) :
    eventsFrom p .gap (lexeme ++ rest) = .ok token :: eventsFrom (p.afterAll lexeme) .gap rest := by
  cases h with
  | opening => rfl
  | closing => rfl
  | @string body text hbody =>
      have hstep : step '"' (p.after '"') .gap = ([], .string (p.after '"') []) := rfl
      rw [List.cons_append, eventsFrom_of_step hstep, List.nil_append, List.append_assoc,
        List.singleton_append, eventsFrom_string hbody]
      simp [stringToken]
  | @symbol c cs hc hs =>
      have hsym := hs c (by simp)
      have hstep : step c (p.after c) .gap = ([], .symbol [c]) := by
        have hopen : c ≠ '(' := by rintro rfl; exact absurd hsym (by decide)
        have hclose : c ≠ ')' := by rintro rfl; exact absurd hsym (by decide)
        have hquote : c ≠ '"' := by rintro rfl; exact absurd hsym (by decide)
        simp [step, stepGap, Text.isBlank_of_isSymbolChar hsym, hc, hopen, hclose, hquote, hsym]
      rw [List.cons_append, eventsFrom_of_step hstep, List.nil_append,
        eventsFrom_symbol (fun d hd => hs d (by simp [hd])), eventsFrom_endsSymbol (hends rfl)]
      simp [symbolToken]

lemma eventsFrom_spelled {text : List Char} {tokens : List Token} (h : Spelled text tokens) :
    ∀ p : Position, eventsFrom p .gap text = tokens.map .ok := by
  induction h with
  | nil => exact fun _ => rfl
  | cons hl hg hp _ ih =>
      intro p
      rw [eventsFrom_lexeme hl (fun hk => (hp hk).endsSymbol), eventsFrom_gap hg, ih,
        List.map_cons]

/-- Every sentence is read as its tokens. -/
theorem eventsFrom_sentence {source : List Char} {tokens : List Token}
    (h : Sentence source tokens) (p : Position) : eventsFrom p .gap source = tokens.map .ok := by
  obtain ⟨gap, rest, rfl, hg, hs⟩ := h
  rw [eventsFrom_gap hg, eventsFrom_spelled hs]

end Lexer

/-! ## Sentences from the front -/

namespace Sentence

variable {rest : List Char} {tokens : List Token}

lemma nil : Sentence [] [] := ⟨[], [], rfl, .nil, .nil⟩

lemma blank {c : Char} (hc : Text.isBlank c = true) (h : Sentence rest tokens) :
    Sentence (c :: rest) tokens := by
  obtain ⟨gap, text, rfl, hg, hs⟩ := h
  exact ⟨c :: gap, text, rfl, .blank hc hg, hs⟩

lemma comment {body : List Char} (hbody : ∀ c ∈ body, isControl c = false)
    (hends : EndsComment rest) (h : Sentence rest tokens) :
    Sentence ('#' :: (body ++ rest)) tokens := by
  obtain ⟨gap, text, rfl, hg, hs⟩ := h
  exact ⟨'#' :: (body ++ gap), text, by simp, .comment hbody hends hg, hs⟩

lemma lexeme {lexeme : List Char} {token : Token} (hl : Lexeme lexeme token)
    (hends : token.kind = .symbol → EndsSymbol rest) (h : Sentence rest tokens) :
    Sentence (lexeme ++ rest) (token :: tokens) := by
  obtain ⟨gap, text, rfl, hg, hs⟩ := h
  exact ⟨[], lexeme ++ (gap ++ text), rfl, .nil,
    .cons hl hg (fun hk => (hends hk).parted hg hs) hs⟩

end Sentence

/-! ## What a source must still hold -/

namespace Lexer

/-- What follows inside a string of which some characters have been collected. -/
def InString (collected : List Char) (text : List Char) (tokens : List Token) : Prop :=
  ∃ body more rest others, text = body ++ '"' :: rest ∧ Escaped body more ∧
    tokens = ⟨.string, String.ofList (collected.reverse ++ more)⟩ :: others ∧ Sentence rest others

/-- What a source must still hold in each mode of the lexer. -/
def Continues : Mode → List Char → List Token → Prop
  | .gap, text, tokens => Sentence text tokens
  | .comment, text, tokens =>
    ∃ body rest, text = body ++ rest ∧ (∀ c ∈ body, isControl c = false) ∧ EndsComment rest ∧
      Sentence rest tokens
  | .string _ collected, text, tokens => InString collected text tokens
  | .escape _ collected, text, tokens =>
    ∃ c rest, text = c :: rest ∧ InString (c :: collected) rest tokens
  | .symbol collected, text, tokens =>
    ∃ more rest others, text = more ++ rest ∧ (∀ c ∈ more, isSymbolChar c = true) ∧
      EndsSymbol rest ∧ tokens = ⟨.symbol, String.ofList (collected.reverse ++ more)⟩ :: others ∧
      Sentence rest others

/-- Which tokens were completed can be read off the events. -/
lemma eq_of_map_ok (tokens : List Token) {done : List Token}
    (h : (tokens.map .ok : List Event) = done.map .ok) : done = tokens :=
  (List.map_injective_iff.mpr fun _ _ => Except.ok.inj) h.symm

/-- One character between tokens. -/
lemma continues_stepGap {c : Char} {p : Position} {rest : List Char} {done tokens : List Token}
    (hdone : (stepGap c p).1 = done.map .ok) (h : Continues (stepGap c p).2 rest tokens) :
    Sentence (c :: rest) (done ++ tokens) := by
  unfold stepGap at hdone h
  split_ifs at hdone h with hblank hhash hopen hclose hquote hsymbol
  · obtain rfl := List.map_eq_nil_iff.mp hdone.symm
    exact Sentence.blank hblank h
  · subst hhash
    obtain rfl := List.map_eq_nil_iff.mp hdone.symm
    obtain ⟨body, text, rfl, hbody, hends, hs⟩ := h
    exact Sentence.comment hbody hends hs
  · subst hopen
    obtain rfl := eq_of_map_ok [.openParen] hdone
    exact Sentence.lexeme .opening (fun hk => by cases hk) h
  · subst hclose
    obtain rfl := eq_of_map_ok [.closeParen] hdone
    exact Sentence.lexeme .closing (fun hk => by cases hk) h
  · subst hquote
    obtain rfl := List.map_eq_nil_iff.mp hdone.symm
    obtain ⟨body, text, after, others, rfl, hbody, rfl, hs⟩ := h
    have hl := Sentence.lexeme (.string hbody) (fun hk => by cases hk) hs
    simpa using hl
  · obtain rfl := List.map_eq_nil_iff.mp hdone.symm
    obtain ⟨more, text, others, rfl, hmore, hends, rfl, hs⟩ := h
    have hl : Lexeme (c :: more) ⟨.symbol, String.ofList (c :: more)⟩ :=
      .symbol hhash (by simpa [hsymbol] using hmore)
    exact Sentence.lexeme hl (fun _ => hends) hs
  · cases done <;> simp at hdone

lemma stepGap_of_isControl {c : Char} {p : Position} (hc : isControl c = true)
    (hb : Text.isBlank c = false) : stepGap c p = ([.error (.invalidToken c p)], .gap) := by
  have hsymbol : isSymbolChar c = false := by
    by_contra hs
    rw [isControl_of_isSymbolChar (by simpa using hs)] at hc
    cases hc
  have hne : ∀ d : Char, isControl d = false → c ≠ d := by
    rintro d hd rfl
    rw [hd] at hc
    cases hc
  simp [stepGap, hb, hsymbol, hne '#' (by decide), hne '(' (by decide), hne ')' (by decide),
    hne '"' (by decide)]

/-- **One step.**  If the text behind a character holds what the mode after it asks for, the text
from the character on holds what the mode before it asks for, with the tokens that the character
completes in front. -/
lemma continues_step {c : Char} {p : Position} {mode : Mode} {rest : List Char}
    {done tokens : List Token} (hdone : (step c p mode).1 = done.map .ok)
    (h : Continues (step c p mode).2 rest tokens) :
    Continues mode (c :: rest) (done ++ tokens) := by
  cases mode with
  | gap => exact continues_stepGap hdone h
  | comment =>
      simp only [step] at hdone h
      split_ifs at hdone h with hc
      · -- the comment is over, and the character must be a blank
        have hs := continues_stepGap hdone h
        refine ⟨[], c :: rest, rfl, by simp, ⟨hc, ?_⟩, hs⟩
        by_contra hb
        have hb : Text.isBlank c = false := by simpa using hb
        rw [stepGap_of_isControl hc hb] at hdone
        cases done <;> simp at hdone
      · obtain rfl := List.map_eq_nil_iff.mp hdone.symm
        obtain ⟨body, text, rfl, hbody, hends, hs⟩ := h
        exact ⟨c :: body, text, rfl, by simpa [hc] using hbody, hends, hs⟩
  | string opened collected =>
      simp only [step] at hdone h
      split_ifs at hdone h with hquote hslash
      · subst hquote
        obtain rfl := eq_of_map_ok [stringToken collected] hdone
        exact ⟨[], [], rest, tokens, rfl, .nil, by simp [stringToken], h⟩
      · subst hslash
        obtain rfl := List.map_eq_nil_iff.mp hdone.symm
        obtain ⟨d, text, rfl, body, more, after, others, rfl, hbody, rfl, hs⟩ := h
        exact ⟨'\\' :: d :: body, d :: more, after, others, rfl, .escape hbody, by simp, hs⟩
      · obtain rfl := List.map_eq_nil_iff.mp hdone.symm
        obtain ⟨body, more, after, others, rfl, hbody, rfl, hs⟩ := h
        exact ⟨c :: body, c :: more, after, others, rfl, .plain hquote hslash hbody, by simp, hs⟩
  | escape opened collected =>
      obtain rfl := List.map_eq_nil_iff.mp hdone.symm
      exact ⟨c, rest, rfl, h⟩
  | symbol collected =>
      simp only [step] at hdone h
      split_ifs at hdone h with hblank hopen hclose hsymbol
      · obtain rfl := eq_of_map_ok [symbolToken collected] hdone
        exact ⟨[], c :: rest, tokens, rfl, by simp, Or.inr (Or.inr hblank), by simp [symbolToken],
          Sentence.blank hblank h⟩
      · subst hopen
        obtain rfl := eq_of_map_ok [symbolToken collected, .openParen] hdone
        exact ⟨[], '(' :: rest, _, rfl, by simp, Or.inl rfl, by simp [symbolToken],
          Sentence.lexeme .opening (fun hk => by cases hk) h⟩
      · subst hclose
        obtain rfl := eq_of_map_ok [symbolToken collected, .closeParen] hdone
        exact ⟨[], ')' :: rest, _, rfl, by simp, Or.inr (Or.inl rfl), by simp [symbolToken],
          Sentence.lexeme .closing (fun hk => by cases hk) h⟩
      · obtain rfl := List.map_eq_nil_iff.mp hdone.symm
        obtain ⟨more, text, others, rfl, hmore, hends, rfl, hs⟩ := h
        exact ⟨c :: more, text, others, rfl, by simpa [hsymbol] using hmore, hends, by simp, hs⟩
      · cases done <;> simp at hdone

/-- The end of the source. -/
lemma continues_finish {mode : Mode} {tokens : List Token} (h : finish mode = tokens.map .ok) :
    Continues mode [] tokens := by
  cases mode with
  | gap =>
      obtain rfl := List.map_eq_nil_iff.mp h.symm
      exact Sentence.nil
  | comment =>
      obtain rfl := List.map_eq_nil_iff.mp h.symm
      exact ⟨[], [], rfl, by simp, trivial, Sentence.nil⟩
  | string opened collected => cases tokens <;> simp [finish] at h
  | escape opened collected => cases tokens <;> simp [finish] at h
  | symbol collected =>
      obtain rfl := eq_of_map_ok [symbolToken collected] h
      exact ⟨[], [], [], rfl, by simp, trivial, by simp [symbolToken], Sentence.nil⟩

/-- **The run.**  A text that is read without a fault holds what the mode it is read in asks for. -/
theorem continues_of_eventsFrom : ∀ {text : List Char} {p : Position} {mode : Mode}
    {tokens : List Token}, eventsFrom p mode text = tokens.map .ok →
      Continues mode text tokens := by
  intro text
  induction text with
  | nil =>
      intro p mode tokens h
      rw [eventsFrom_nil] at h
      exact continues_finish h
  | cons c rest ih =>
      intro p mode tokens h
      rw [eventsFrom_cons] at h
      obtain ⟨done, others, rfl, hdone, hothers⟩ := List.map_eq_append_iff.mp h.symm
      exact continues_step hdone.symm (ih hothers.symm)

/-- **The lexer accepts exactly the sentences.**  It yields some tokens and then ends without a
fault if and only if the source is a row of lexemes that spell these tokens, with gaps around
them. -/
theorem events_eq_iff_sentence (source : List Char) (tokens : List Token) :
    events source = tokens.map .ok ↔ Sentence source tokens :=
  ⟨fun h => show Continues .gap source tokens from continues_of_eventsFrom h,
    fun h => eventsFrom_sentence h .start⟩

end Lexer

end ArenaLisp
