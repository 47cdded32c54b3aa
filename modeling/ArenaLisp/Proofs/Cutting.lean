import ArenaLisp.Node.Reader
import ArenaLisp.Proofs.Pieces
import ArenaLisp.Session.Sources
import Mathlib.Data.List.Forall2
import Mathlib.Tactic.Common

/-!
# Cutting a text at the ends of lines

A script is run source by source, and where one source ends and the next begins is decided by
counting parentheses.  Reading the text in one go decides the same by building lists.  The two agree
on every text that can be read at all: the sources can be read one by one, and what they hold is,
in order, what the text holds.

The reason is a property of single line ends.  If no list and no string is open at the end of a
line, the lexer is between tokens after the line feed, whatever it was in the middle of before, and
the reader has no list open; so reading can stop there and start again.

* `readAll` — a text read in one go.
* `Lexer.eventsFrom_line` — what the lexer does at the end of a line.
* `Reader.formsFrom_append` — what the reader does there.
* **`readAll_line`** — a text may be cut at the end of a line at which nothing is open.
* **`sources_readAll`** — the sources of a text hold what the text holds.
* **`spans_of_mem_sources`** — a source is made of some lines of its text, and has the number of the
  first.
-/

namespace ArenaLisp

/-- The forms of a text, or its first fault. -/
def readAll (text : List Char) : Except ReadFault (List Node) :=
  firstFault (Reader.forms (Lexer.events text))

lemma parse_ofList (text : List Char) : parse (String.ofList text) = readAll text := by
  rw [parse, String.toList_ofList, readAll]

/-! ## The lexer at the end of a line -/

namespace Lexer

/-- The events of a text from a place and a mode on. -/
def eventsFrom (place : Position) (mode : Mode) (text : List Char) : List Event :=
  (pullsFrom place mode text).map (·.event)

lemma eventsFrom_nil (place : Position) (mode : Mode) : eventsFrom place mode [] = finish mode := by
  simp [eventsFrom, pullsFrom, Function.comp_def]

lemma eventsFrom_cons (place : Position) (mode : Mode) (c : Char) (rest : List Char) :
    eventsFrom place mode (c :: rest) = (step c (place.after c) mode).1 ++
      eventsFrom (place.after c) (step c (place.after c) mode).2 rest := by
  simp [eventsFrom, pullsFrom, Function.comp_def]

/-- The end of a line is the end of every token but a string.  Inside a string the text goes on; had
it ended there, the string would have been the fault. -/
lemma eventsFrom_line (v : List Char) : ∀ (u : List Char) (place : Position) (mode : Mode),
    (∃ place', eventsFrom place mode (u ++ '\n' :: v) =
      eventsFrom place mode u ++ eventsFrom place' .gap v) ∨
    (∃ es opened collected place',
      eventsFrom place mode u = es ++ [.error (.unterminatedString opened)] ∧
      eventsFrom place mode (u ++ '\n' :: v) =
        es ++ eventsFrom place' (.string opened collected) v) := by
  intro u
  induction u with
  | nil =>
      intro place mode
      rw [List.nil_append, eventsFrom_nil, eventsFrom_cons]
      cases mode with
      | gap => exact Or.inl ⟨_, rfl⟩
      | comment => exact Or.inl ⟨_, rfl⟩
      | symbol collected => exact Or.inl ⟨_, rfl⟩
      | string opened collected => exact Or.inr ⟨[], opened, _, _, rfl, rfl⟩
      | escape opened collected => exact Or.inr ⟨[], opened, _, _, rfl, rfl⟩
  | cons c u ih =>
      intro place mode
      rw [List.cons_append, eventsFrom_cons, eventsFrom_cons]
      rcases ih (place.after c) (step c (place.after c) mode).2 with
        ⟨place', h⟩ | ⟨es, opened, collected, place', hu, h⟩
      · exact Or.inl ⟨place', by rw [h, List.append_assoc]⟩
      · refine Or.inr ⟨(step c (place.after c) mode).1 ++ es, opened, collected, place', ?_, ?_⟩
        · rw [hu, List.append_assoc]
        · rw [h, List.append_assoc]

/-! Faults name places, tokens do not: where a text starts matters only for its faults. -/

/-- A fault without its place. -/
def placelessFault : LexFault → LexFault
  | .invalidToken c _ => .invalidToken c .start
  | .invalidCharacter c symbol _ => .invalidCharacter c symbol .start
  | .unterminatedString _ => .unterminatedString .start

/-- An event without its place. -/
def placeless : Event → Event
  | .ok token => .ok token
  | .error fault => .error (placelessFault fault)

/-- A mode without the place of the quote that opened its string. -/
def Mode.placeless : Mode → Mode
  | .string _ collected => .string .start collected
  | .escape _ collected => .escape .start collected
  | mode => mode

lemma stepGap_placeless (c : Char) (p p' : Position) :
    (stepGap c p).1.map placeless = (stepGap c p').1.map placeless ∧
      (stepGap c p).2.placeless = (stepGap c p').2.placeless := by
  unfold stepGap
  split_ifs <;> exact ⟨rfl, rfl⟩

lemma step_placeless (c : Char) (p p' : Position) {mode mode' : Mode}
    (h : mode.placeless = mode'.placeless) :
    (step c p mode).1.map placeless = (step c p' mode').1.map placeless ∧
      (step c p mode).2.placeless = (step c p' mode').2.placeless := by
  cases mode <;> cases mode' <;> simp only [Mode.placeless, Mode.string.injEq, Mode.escape.injEq,
    Mode.symbol.injEq, true_and, reduceCtorEq] at h
  case gap.gap => exact stepGap_placeless c p p'
  case comment.comment =>
    simp only [step]
    split_ifs
    · exact stepGap_placeless c p p'
    · exact ⟨rfl, rfl⟩
  case string.string =>
    subst h
    simp only [step]
    split_ifs <;> exact ⟨rfl, rfl⟩
  case escape.escape =>
    subst h
    exact ⟨rfl, rfl⟩
  case symbol.symbol =>
    subst h
    simp only [step]
    split_ifs <;> exact ⟨rfl, rfl⟩

lemma finish_placeless {mode mode' : Mode} (h : mode.placeless = mode'.placeless) :
    (finish mode).map placeless = (finish mode').map placeless := by
  cases mode <;> cases mode' <;>
    simp only [Mode.placeless, Mode.symbol.injEq, reduceCtorEq] at h <;>
    first
    | rfl
    | (subst h; rfl)

lemma eventsFrom_placeless : ∀ (text : List Char) (p p' : Position) {mode mode' : Mode},
    mode.placeless = mode'.placeless →
      (eventsFrom p mode text).map placeless = (eventsFrom p' mode' text).map placeless := by
  intro text
  induction text with
  | nil =>
      intro p p' mode mode' h
      rw [eventsFrom_nil, eventsFrom_nil, finish_placeless h]
  | cons c rest ih =>
      intro p p' mode mode' h
      obtain ⟨hevents, hmode⟩ := step_placeless c (p.after c) (p'.after c) h
      rw [eventsFrom_cons, eventsFrom_cons, List.map_append, List.map_append, hevents,
        ih _ _ hmode]

lemma eq_of_map_placeless : ∀ {events : List Event} {tokens : List Token},
    events.map placeless = tokens.map .ok → events = tokens.map .ok
  | [], [], _ => rfl
  | .ok t :: events, token :: tokens, h => by
      simp only [List.map_cons, placeless, List.cons.injEq] at h ⊢
      exact ⟨h.1, eq_of_map_placeless h.2⟩
  | .error fault :: events, token :: tokens, h => by
      simp [placeless] at h

/-- A text that can be cut into tokens can be so wherever it starts. -/
lemma events_of_eventsFrom {text : List Char} {place : Position} {tokens : List Token}
    (h : eventsFrom place .gap text = tokens.map .ok) : events text = tokens.map .ok := by
  refine eq_of_map_placeless ?_
  have hplace := eventsFrom_placeless text .start place
    (rfl : Mode.gap.placeless = Mode.gap.placeless)
  rw [h] at hplace
  rw [show events text = eventsFrom .start .gap text from rfl, hplace, List.map_map]
  rfl

/-- A line of blanks holds no tokens. -/
lemma events_blank {line : List Char} (h : Text.isBlankLine line = true) : events line = [] := by
  have hfrom : ∀ (line : List Char) (place : Position), Text.isBlankLine line = true →
      eventsFrom place .gap line = [] := by
    intro line
    induction line with
    | nil => exact fun _ _ => rfl
    | cons c rest ih =>
        intro place h
        simp only [Text.isBlankLine, List.all_cons, Bool.and_eq_true] at h
        have hstep : step c (place.after c) .gap = ([], .gap) := by
          simp [step, stepGap, h.1]
        rw [eventsFrom_cons, hstep, ih _ h.2]
        rfl
  exact hfrom line .start h

end Lexer

/-! ## The reader at the end of a line -/

lemma firstFault_cons_ok {ε α : Type} {a : α} {rest : List (Except ε α)} {all : List α}
    (h : firstFault (.ok a :: rest) = .ok all) :
    ∃ others, firstFault rest = .ok others ∧ all = a :: others := by
  simp only [firstFault] at h
  cases hrest : firstFault rest with
  | error e => rw [hrest] at h; cases h
  | ok others =>
      rw [hrest] at h
      exact ⟨others, rfl, (Except.ok.inj h).symm⟩

namespace Reader

@[simp] lemma length_place (node : Node) (lists : Open) :
    (place node lists).2.length = lists.length := by
  cases lists <;> rfl

/-- As long as tokens do not fail, counting parentheses tells how many lists are open. -/
lemma isOpenFrom_stepToken {token : Token} {lists : Open}
    (h : ∀ fault, (stepToken token lists).1 ≠ some (.error fault)) (es : List Lexer.Event) :
    isOpenFrom lists.length (.ok token :: es) = isOpenFrom (stepToken token lists).2.length es := by
  cases hkind : token.kind with
  | opening => simp [isOpenFrom, stepToken, hkind]
  | closing =>
      cases lists with
      | nil => simp [stepToken, hkind, abandon] at h
      | cons items outer => simp [isOpenFrom, stepToken, hkind]
  | string => simp [isOpenFrom, stepToken, hkind]
  | symbol =>
      cases hnode : classify token.text with
      | error fault => simp [stepToken, hkind, hnode, abandon] at h
      | ok node => simp [isOpenFrom, stepToken, hkind, hnode]
  | bare => simp [stepToken, hkind, abandon] at h

/-- What a token does in a text that can be read: it completes some forms and leaves some lists
open, whatever follows. -/
lemma formsFrom_token {token : Token} {lists : Open} {rest : List Lexer.Event} {nodes : List Node}
    (h : firstFault (formsFrom lists (.ok token :: rest)) = .ok nodes) :
    ∃ (done : List Node) (lists' : Open) (others : List Node),
      (∀ es, formsFrom lists (.ok token :: es) = done.map .ok ++ formsFrom lists' es) ∧
      (∀ es, isOpenFrom lists.length (.ok token :: es) = isOpenFrom lists'.length es) ∧
      firstFault (formsFrom lists' rest) = .ok others ∧ nodes = done ++ others := by
  have hforms : ∀ es, formsFrom lists (.ok token :: es) =
      (stepToken token lists).1.toList ++ formsFrom (stepToken token lists).2 es := fun _ => rfl
  have hopen := @isOpenFrom_stepToken token lists
  rw [hforms] at h
  cases hstep : (stepToken token lists).1 with
  | none =>
      rw [hstep] at h hforms hopen
      exact ⟨[], _, nodes, hforms, hopen (by simp), h, rfl⟩
  | some form =>
      rw [hstep] at h hforms hopen
      cases form with
      | error fault => cases h
      | ok node =>
          obtain ⟨others, hothers, rfl⟩ := firstFault_cons_ok h
          exact ⟨[node], _, others, hforms, hopen (by simp), hothers, rfl⟩

/-- A text that can be read has no malformed part. -/
lemma tokens_of_formsFrom : ∀ {es : List Lexer.Event} {lists : Open} {nodes : List Node},
    firstFault (formsFrom lists es) = .ok nodes → ∃ tokens : List Token, es = tokens.map .ok := by
  intro es
  induction es with
  | nil => exact fun _ => ⟨[], rfl⟩
  | cons event rest ih =>
      intro lists nodes h
      cases event with
      | error fault => cases h
      | ok token =>
          obtain ⟨_, _, _, _, _, hrest, _⟩ := formsFrom_token h
          obtain ⟨tokens, rfl⟩ := ih hrest
          exact ⟨token :: tokens, rfl⟩

/-- At the end of a text that can be read nothing is open. -/
lemma not_open_of_formsFrom : ∀ {tokens : List Token} {lists : Open} {nodes : List Node},
    firstFault (formsFrom lists (tokens.map .ok)) = .ok nodes →
      isOpenFrom lists.length (tokens.map .ok) = false := by
  intro tokens
  induction tokens with
  | nil =>
      intro lists nodes h
      cases lists with
      | nil => rfl
      | cons items outer => cases h
  | cons token tokens ih =>
      intro lists nodes h
      obtain ⟨_, lists', _, _, hopen, hrest, _⟩ := formsFrom_token h
      rw [List.map_cons, hopen]
      exact ih hrest

lemma firstFault_map_ok_append {ε α : Type} {fs : List (Except ε α)} {others : List α}
    (h : firstFault fs = .ok others) (done : List α) :
    firstFault (done.map .ok ++ fs) = .ok (done ++ others) := by
  induction done with
  | nil => exact h
  | cons a done ih =>
      rw [List.map_cons, List.cons_append, firstFault, ih]
      rfl

/-- If nothing is open after some tokens, what follows can be read on its own. -/
lemma formsFrom_append {es : List Lexer.Event} : ∀ {tokens : List Token} {lists : Open}
    {nodes : List Node}, firstFault (formsFrom lists (tokens.map .ok ++ es)) = .ok nodes →
      isOpenFrom lists.length (tokens.map .ok) = false →
      ∃ first second, firstFault (formsFrom lists (tokens.map .ok)) = .ok first ∧
        firstFault (formsFrom [] es) = .ok second ∧ nodes = first ++ second := by
  intro tokens
  induction tokens with
  | nil =>
      intro lists nodes h hopen
      have hnil : lists = [] := by
        simpa [isOpenFrom] using hopen
      subst hnil
      exact ⟨[], nodes, rfl, h, rfl⟩
  | cons token tokens ih =>
      intro lists nodes h hopen
      obtain ⟨done, lists', others, hforms, hcount, hrest, rfl⟩ := formsFrom_token h
      rw [List.map_cons, hcount] at hopen
      obtain ⟨first, second, hfirst, hsecond, rfl⟩ := ih hrest hopen
      refine ⟨done ++ first, second, ?_, hsecond, (List.append_assoc ..).symm⟩
      rw [List.map_cons, hforms]
      exact firstFault_map_ok_append hfirst done

end Reader

/-! ## Cutting a text -/

lemma isOpenFrom_unterminated (opened : Position) : ∀ (tokens : List Token) (depth : Int),
    isOpenFrom depth (tokens.map .ok ++ [.error (.unterminatedString opened)]) = true := by
  intro tokens
  induction tokens with
  | nil => exact fun _ => rfl
  | cons token tokens ih =>
      intro depth
      simp only [List.map_cons, List.cons_append, isOpenFrom]
      split <;> exact ih _

/-- The tokens of a text that can be read. -/
lemma tokens_of_readAll {text : List Char} {nodes : List Node} (h : readAll text = .ok nodes) :
    ∃ tokens : List Token, Lexer.events text = tokens.map .ok :=
  Reader.tokens_of_formsFrom h

/-- A text that can be read is not open at its end. -/
lemma not_open_of_readAll {text : List Char} {nodes : List Node} (h : readAll text = .ok nodes) :
    isOpen text = false := by
  obtain ⟨tokens, htokens⟩ := tokens_of_readAll h
  unfold readAll at h
  unfold isOpen
  rw [htokens] at h ⊢
  exact Reader.not_open_of_formsFrom h

/-- **A text may be cut at the end of a line** at which no list and no string is open. -/
theorem readAll_line {u v : List Char} {nodes : List Node}
    (h : readAll (u ++ '\n' :: v) = .ok nodes) (hopen : isOpen u = false) :
    ∃ first second, readAll u = .ok first ∧ readAll v = .ok second ∧ nodes = first ++ second := by
  obtain ⟨tokens, htokens⟩ := tokens_of_readAll h
  have hevents : Lexer.events (u ++ '\n' :: v) =
      Lexer.eventsFrom .start .gap (u ++ '\n' :: v) := rfl
  rcases Lexer.eventsFrom_line v u .start .gap with
    ⟨place, hline⟩ | ⟨es, opened, collected, place, hu, hline⟩
  · have hsplit : tokens.map .ok = Lexer.events u ++ Lexer.eventsFrom place .gap v := by
      rw [← htokens, hevents, hline]
      rfl
    obtain ⟨before, after, rfl, hbefore, hafter⟩ := List.map_eq_append_iff.mp hsplit
    have hv : Lexer.events v = after.map .ok := Lexer.events_of_eventsFrom hafter.symm
    unfold isOpen at hopen
    unfold readAll at h ⊢
    rw [htokens, List.map_append] at h
    rw [← hbefore] at hopen ⊢
    rw [hv]
    exact Reader.formsFrom_append h hopen
  · -- the line ended inside a string, so that the text was open there
    have hsplit : tokens.map .ok = es ++ Lexer.eventsFrom place (.string opened collected) v := by
      rw [← htokens, hevents, hline]
    obtain ⟨before, after, rfl, hbefore, hafter⟩ := List.map_eq_append_iff.mp hsplit
    have hopen' : isOpen u = true := by
      show isOpenFrom 0 (Lexer.eventsFrom .start .gap u) = true
      rw [hu, ← hbefore]
      exact isOpenFrom_unterminated opened before 0
    rw [hopen'] at hopen
    cases hopen

/-- A line feed at the very end of a text adds nothing to it. -/
lemma readAll_of_newline {u : List Char} {nodes : List Node}
    (h : readAll (u ++ ['\n']) = .ok nodes) : readAll u = .ok nodes := by
  have hevents : Lexer.events (u ++ ['\n']) = Lexer.eventsFrom .start .gap (u ++ ['\n']) := rfl
  rcases Lexer.eventsFrom_line [] u .start .gap with
    ⟨place, hline⟩ | ⟨es, opened, collected, place, hu, hline⟩
  · unfold readAll at h ⊢
    rw [hevents, hline, Lexer.eventsFrom_nil, Lexer.finish, List.append_nil] at h
    exact h
  · obtain ⟨tokens, htokens⟩ := tokens_of_readAll h
    rw [hevents, hline, Lexer.eventsFrom_nil] at htokens
    obtain ⟨_, last, _, _, hlast⟩ := List.map_eq_append_iff.mp htokens.symm
    cases last <;> simp [Lexer.finish] at hlast

lemma readAll_blank {line : List Char} (h : Text.isBlankLine line = true) :
    readAll line = .ok [] := by
  unfold readAll
  rw [Lexer.events_blank h]
  rfl

/-! ## Lines -/

namespace Text

/-- Lines put together again, with a line feed between any two. -/
def joinLines : List (List Char) → List Char
  | [] => []
  | [line] => line
  | line :: rest => line ++ '\n' :: joinLines rest

lemma joinLines_cons (line next : List Char) (rest : List (List Char)) :
    joinLines (line :: next :: rest) = line ++ '\n' :: joinLines (next :: rest) := rfl

lemma joinLines_cons_cons (c : Char) (line : List Char) (rest : List (List Char)) :
    joinLines ((c :: line) :: rest) = c :: joinLines (line :: rest) := by
  cases rest <;> rfl

lemma joinLines_concat {lines : List (List Char)} (h : lines ≠ []) (line : List Char) :
    joinLines (lines ++ [line]) = joinLines lines ++ '\n' :: line := by
  induction lines with
  | nil => exact absurd rfl h
  | cons first rest ih =>
      cases rest with
      | nil => rfl
      | cons next rest =>
          have hrest := ih (by simp)
          simp only [List.cons_append, joinLines_cons] at hrest ⊢
          rw [hrest, List.append_assoc]
          rfl

lemma joinLines_eq_intercalate (lines : List (List Char)) :
    joinLines lines = ['\n'].intercalate lines := by
  induction lines with
  | nil => rfl
  | cons line rest ih =>
      cases rest with
      | nil => exact List.intercalate_singleton.symm
      | cons next rest =>
          rw [joinLines_cons, ih, List.intercalate_cons_cons, List.append_assoc]
          rfl

lemma joinLines_pieces (text : List Char) : joinLines (pieces ['\n'] text) = text := by
  rw [joinLines_eq_intercalate]
  exact (cut_pieces (List.cons_ne_nil _ _) text).intercalate

lemma joinLines_dropFinalEmpty : ∀ pieces : List (List Char),
    joinLines pieces = joinLines (dropFinalEmpty pieces) ∨
      joinLines pieces = joinLines (dropFinalEmpty pieces) ++ ['\n']
  | [] => Or.inl rfl
  | [[]] => Or.inl rfl
  | [_ :: _] => Or.inl rfl
  | line :: next :: rest => by
      have ih := joinLines_dropFinalEmpty (next :: rest)
      rw [dropFinalEmpty_cons (List.cons_ne_nil _ _), joinLines_cons]
      cases hnext : dropFinalEmpty (next :: rest) with
      | nil =>
          -- only a single empty line is dropped as a whole
          obtain ⟨rfl, rfl⟩ : next = [] ∧ rest = [] := by
            cases next <;> cases rest <;> simp_all [dropFinalEmpty]
          exact Or.inr rfl
      | cons line' rest' =>
          rw [hnext] at ih
          rcases ih with ih | ih
          · exact Or.inl (by rw [ih, joinLines_cons])
          · exact Or.inr (by rw [ih, joinLines_cons]; simp)

/-- A text is its lines put together, but for a line feed at its end. -/
lemma joinLines_lines (text : List Char) :
    text = joinLines (lines text) ∨ text = joinLines (lines text) ++ ['\n'] := by
  have h := joinLines_dropFinalEmpty (pieces ['\n'] text)
  rwa [joinLines_pieces] at h

end Text

/-! ## Gathering sources -/

namespace Gathering

/-- The text that a text still to come makes with the source that is open. -/
def pending (g : Gathering) (text : List Char) : List Char :=
  match g.continuing, g.sources with
  | true, latest :: _ => latest.text ++ '\n' :: text
  | _, _ => text

/-- The sources that no line is added to any more. -/
def settled (g : Gathering) : List Source :=
  match g.continuing, g.sources with
  | true, _ :: earlier => earlier
  | _, sources => sources

lemma pending_append (g : Gathering) (u v : List Char) :
    g.pending (u ++ '\n' :: v) = g.pending u ++ '\n' :: v := by
  unfold pending
  split <;> simp

lemma pending_of_not_continuing {g : Gathering} (h : g.continuing = false) (text : List Char) :
    g.pending text = text := by
  simp [pending, h]

lemma settled_of_not_continuing {g : Gathering} (h : g.continuing = false) :
    g.settled = g.sources := by
  simp [settled, h]

/-- What becomes of a line: it belongs to a source, new or old, unless it is blank and starts
one. -/
lemma add_cases (g : Gathering) (number : Nat) (line : List Char) :
    (g.add number line).2.continuing = isOpen (g.pending line) ∧
    ((∃ first, (g.add number line).2.sources = ⟨g.pending line, first⟩ :: g.settled) ∨
      (Text.isBlankLine (g.pending line) = true ∧ (g.add number line).2.sources = g.settled)) := by
  obtain ⟨sources, continuing⟩ := g
  -- a line goes on with a source only if one is open and there is one
  cases continuing with
  | false =>
      by_cases hblank : Text.isBlankLine line = true <;> simp [add, pending, settled, hblank]
  | true =>
      cases sources with
      | nil =>
          by_cases hblank : Text.isBlankLine line = true <;> simp [add, pending, settled, hblank]
      | cons latest earlier => exact ⟨rfl, Or.inl ⟨latest.line, rfl⟩⟩

lemma isOpen_blank {line : List Char} (h : Text.isBlankLine line = true) : isOpen line = false :=
  not_open_of_readAll (readAll_blank h)

/-- A line after which the source is open: the next lines go on with it. -/
lemma add_open {g : Gathering} {line : List Char} (h : isOpen (g.pending line) = true)
    (number : Nat) :
    (∀ text, (g.add number line).2.pending text = g.pending line ++ '\n' :: text) ∧
      (g.add number line).2.settled = g.settled := by
  obtain ⟨hc, ⟨first, hs⟩ | ⟨hblank, -⟩⟩ := g.add_cases number line
  · rw [h] at hc
    exact ⟨fun text => by simp [pending, hc, hs], by simp [settled, hc, hs]⟩
  · rw [isOpen_blank hblank] at h
    cases h

/-- Sources, the latest first, that can be read one by one, and what they hold in order. -/
def Reads (sources : List Source) (nodes : List Node) : Prop :=
  ∃ parts : List (List Node),
    List.Forall₂ (fun (s : Source) part => readAll s.text = .ok part) sources.reverse parts ∧
      parts.flatten = nodes

lemma Reads.append {sources sources' : List Source} {nodes nodes' : List Node}
    (h : Reads sources nodes) (h' : Reads sources' nodes') :
    Reads (sources' ++ sources) (nodes ++ nodes') := by
  obtain ⟨parts, hparts, rfl⟩ := h
  obtain ⟨parts', hparts', rfl⟩ := h'
  refine ⟨parts ++ parts', ?_, List.flatten_append⟩
  rw [List.reverse_append]
  exact List.rel_append hparts hparts'

/-- A line after which nothing is open: its source is complete. -/
lemma add_closed {g : Gathering} {line : List Char} {nodes : List Node}
    (h : readAll (g.pending line) = .ok nodes) (number : Nat) :
    (g.add number line).2.continuing = false ∧
      ∃ new, (g.add number line).2.sources = new ++ g.settled ∧ Reads new nodes := by
  obtain ⟨hc, hs⟩ := g.add_cases number line
  refine ⟨hc.trans (not_open_of_readAll h), ?_⟩
  rcases hs with ⟨first, hs⟩ | ⟨hblank, hs⟩
  · refine ⟨[⟨g.pending line, first⟩], hs, [nodes], ?_, by simp⟩
    exact .cons h .nil
  · have hnil : nodes = [] := by
      rw [readAll_blank hblank] at h
      exact (Except.ok.inj h).symm
    exact ⟨[], hs, [], .nil, hnil.symm⟩

/-- Gathering the lines of a text that can be read: the new sources hold what the text holds.  The
induction is on the lines; the text in question is what is still open followed by them. -/
lemma addAll_reads : ∀ (rest : List (List Char)) (line : List Char) {g : Gathering}
    {nodes : List Node} (number : Nat),
    readAll (g.pending (Text.joinLines (line :: rest))) = .ok nodes →
      ∃ new, (g.addAll number (line :: rest)).sources = new ++ g.settled ∧ Reads new nodes := by
  intro rest
  induction rest with
  | nil =>
      intro line g nodes number h
      exact (add_closed h number).2
  | cons next rest ih =>
      intro line g nodes number h
      have h' : readAll (g.pending line ++ '\n' :: Text.joinLines (next :: rest)) = .ok nodes := by
        rwa [← pending_append]
      show ∃ new, ((g.add number line).2.addAll (number + 1) (next :: rest)).sources = _ ∧ _
      by_cases hopen : isOpen (g.pending line) = true
      · obtain ⟨hpending, hsettled⟩ := add_open hopen number
        rw [← hsettled]
        exact ih next (number + 1) (by rwa [hpending])
      · obtain ⟨first, second, hfirst, hsecond, rfl⟩ := readAll_line h' (by simpa using hopen)
        obtain ⟨hc, new, hs, hreads⟩ := add_closed hfirst number
        obtain ⟨new', hs', hreads'⟩ := ih next (g := (g.add number line).2) (number + 1)
          (by rwa [pending_of_not_continuing hc])
        refine ⟨new' ++ new, ?_, hreads.append hreads'⟩
        rw [hs', settled_of_not_continuing hc, hs, List.append_assoc]

end Gathering

/-- **The sources of a text hold what the text holds**: each can be read on its own, and what they
hold is, in order, what the text holds. -/
theorem sources_readAll {text : List Char} {nodes : List Node} (h : readAll text = .ok nodes) :
    ∃ parts : List (List Node),
      List.Forall₂ (fun (s : Source) part => readAll s.text = .ok part) (sources text) parts ∧
        parts.flatten = nodes := by
  have hjoin : readAll (Text.joinLines (Text.lines text)) = .ok nodes := by
    rcases Text.joinLines_lines text with heq | heq
    · rwa [← heq]
    · rw [heq] at h
      exact readAll_of_newline h
  unfold sources
  cases hlines : Text.lines text with
  | nil =>
      rw [hlines] at hjoin
      exact ⟨[], .nil, Except.ok.inj hjoin⟩
  | cons line rest =>
      rw [hlines] at hjoin
      obtain ⟨new, hs, hreads⟩ := Gathering.addAll_reads rest line (g := {}) 1 hjoin
      have hnew : (Gathering.addAll {} 1 (line :: rest)).sources = new := by
        rw [hs]
        exact List.append_nil new
      rw [hnew]
      exact hreads

/-! ## The numbers of sources -/

/-- A line starts a source under its own number or starts none. -/
lemma Gathering.add_numbers (g : Gathering) (number : Nat) (line : List Char) :
    (g.add number line).2.sources.map Source.line = g.sources.map Source.line ∨
      (g.add number line).2.sources.map Source.line = number :: g.sources.map Source.line := by
  obtain ⟨sources, continuing⟩ := g
  cases continuing with
  | false => by_cases hblank : Text.isBlankLine line = true <;> simp [add, hblank]
  | true =>
      cases sources with
      | nil => by_cases hblank : Text.isBlankLine line = true <;> simp [add, hblank]
      | cons latest earlier => exact Or.inl rfl

lemma Gathering.addAll_numbers : ∀ (lines : List (List Char)) {g : Gathering} {number : Nat},
    (g.sources.map Source.line).Pairwise (· > ·) → (∀ n ∈ g.sources.map Source.line, n < number) →
      ((g.addAll number lines).sources.map Source.line).Pairwise (· > ·) := by
  intro lines
  induction lines with
  | nil => exact fun h _ => h
  | cons line rest ih =>
      intro g number h hlt
      refine ih ?_ ?_
      · rcases g.add_numbers number line with heq | heq <;> rw [heq]
        · exact h
        · exact List.pairwise_cons.mpr ⟨hlt, h⟩
      · rcases g.add_numbers number line with heq | heq <;> rw [heq]
        · exact fun n hn => Nat.lt_succ_of_lt (hlt n hn)
        · intro n hn
          rcases List.mem_cons.mp hn with rfl | hn
          · exact Nat.lt_succ_self _
          · exact Nat.lt_succ_of_lt (hlt n hn)

/-- No two sources of a text start at the same line. -/
lemma nodup_sources_line (text : List Char) : ((sources text).map Source.line).Nodup := by
  have hnil : ((Gathering.sources {}).map Source.line).Pairwise (· > ·) := List.Pairwise.nil
  have hnone : ∀ n ∈ (Gathering.sources {}).map Source.line, n < 1 :=
    fun n hn => absurd hn List.not_mem_nil
  have h := Gathering.addAll_numbers (Text.lines text) hnil hnone
  unfold sources List.Nodup
  rw [List.map_reverse, List.pairwise_reverse]
  exact h.imp fun hgt => Nat.ne_of_lt hgt

/-! ## Where sources stand -/

/-- A source is made of some lines of a text, with further lines behind them.  The first of its
lines is not blank, and its number, counted from one, is that of the source. -/
def Source.Spans (s : Source) (lines further : List (List Char)) : Prop :=
  ∃ before first others, lines = before ++ first :: others ++ further ∧
    s.line = before.length + 1 ∧ s.text = Text.joinLines (first :: others) ∧
    Text.isBlankLine first = false

lemma Source.Spans.concat {s : Source} {lines further : List (List Char)}
    (h : s.Spans lines further) (line : List Char) :
    s.Spans (lines ++ [line]) (further ++ [line]) := by
  obtain ⟨before, first, others, rfl, hline, htext, hblank⟩ := h
  exact ⟨before, first, others, by simp, hline, htext, hblank⟩

/-- An open source takes the next line. -/
lemma Source.Spans.extend {s : Source} {lines : List (List Char)} (h : s.Spans lines [])
    (line : List Char) : Source.Spans ⟨s.text ++ '\n' :: line, s.line⟩ (lines ++ [line]) [] := by
  obtain ⟨before, first, others, rfl, hline, htext, hblank⟩ := h
  refine ⟨before, first, others ++ [line], by simp, hline, ?_, hblank⟩
  rw [← List.cons_append, Text.joinLines_concat (by simp), htext]

lemma Source.Spans.text_ne_nil {s : Source} {lines further : List (List Char)}
    (h : s.Spans lines further) : s.text ≠ [] := by
  obtain ⟨before, first, others, -, -, htext, hblank⟩ := h
  cases first with
  | nil => cases hblank
  | cons c rest =>
      rw [htext, Text.joinLines_cons_cons]
      exact List.cons_ne_nil _ _

/-- The sources gathered from some lines are made of these lines, and one that is still open reaches
to the last of them. -/
structure Gathering.Placed (g : Gathering) (lines : List (List Char)) : Prop where
  spans : ∀ s ∈ g.sources, ∃ further, s.Spans lines further
  latest : g.continuing = true → ∀ s earlier, g.sources = s :: earlier → s.Spans lines []

/-- A line that goes on with no source starts one, unless it is blank. -/
lemma Gathering.Placed.start {g : Gathering} {lines : List (List Char)} (h : g.Placed lines)
    {line : List Char} (hadd : (g.add (lines.length + 1) line).2 =
      { sources := if Text.isBlankLine line then g.sources
          else ⟨line, lines.length + 1⟩ :: g.sources
        continuing := isOpen line }) :
    (g.add (lines.length + 1) line).2.Placed (lines ++ [line]) := by
  have hspans : ∀ s ∈ g.sources, ∃ further, s.Spans (lines ++ [line]) further := by
    intro s hs
    obtain ⟨further, hspan⟩ := h.spans s hs
    exact ⟨_, hspan.concat line⟩
  rw [hadd]
  by_cases hblank : Text.isBlankLine line = true
  · rw [if_pos hblank, isOpen_blank hblank]
    exact ⟨hspans, fun hopen => Bool.noConfusion hopen⟩
  · have hline : Source.Spans ⟨line, lines.length + 1⟩ (lines ++ [line]) [] :=
      ⟨lines, line, [], by simp, rfl, rfl, by simpa using hblank⟩
    rw [if_neg hblank]
    refine ⟨List.forall_mem_cons.mpr ⟨⟨_, hline⟩, hspans⟩, fun _ s earlier heq => ?_⟩
    obtain ⟨rfl, -⟩ := List.cons.inj heq
    exact hline

/-- One more line. -/
lemma Gathering.Placed.add {g : Gathering} {lines : List (List Char)} (h : g.Placed lines)
    (line : List Char) : (g.add (lines.length + 1) line).2.Placed (lines ++ [line]) := by
  obtain ⟨sources, continuing⟩ := g
  cases continuing with
  | false =>
      refine h.start ?_
      by_cases hblank : Text.isBlankLine line = true <;> simp [Gathering.add, hblank]
  | true =>
      cases sources with
      | nil =>
          refine h.start ?_
          by_cases hblank : Text.isBlankLine line = true <;> simp [Gathering.add, hblank]
      | cons latest earlier =>
          have hlatest := (h.latest rfl latest earlier rfl).extend line
          refine ⟨List.forall_mem_cons.mpr ⟨⟨_, hlatest⟩, fun s hs => ?_⟩, fun _ s rest heq => ?_⟩
          · obtain ⟨further, hspan⟩ := h.spans s (List.mem_cons_of_mem _ hs)
            exact ⟨_, hspan.concat line⟩
          · obtain ⟨rfl, -⟩ := List.cons.inj heq
            exact hlatest

lemma Gathering.Placed.addAll : ∀ (rest : List (List Char)) {g : Gathering}
    {lines : List (List Char)}, g.Placed lines →
    (g.addAll (lines.length + 1) rest).Placed (lines ++ rest) := by
  intro rest
  induction rest with
  | nil => exact fun {g lines} h => by simpa [Gathering.addAll] using h
  | cons line rest ih =>
      intro g lines h
      have hrest := ih (h.add line)
      rwa [List.length_append, List.append_assoc] at hrest

/-- **Where the sources of a text stand**: each is made of some of its lines and has the number of
the first. -/
theorem spans_of_mem_sources {text : List Char} {s : Source} (h : s ∈ sources text) :
    ∃ further, s.Spans (Text.lines text) further := by
  have hnone : Gathering.Placed {} [] := ⟨by simp, fun hopen => Bool.noConfusion hopen⟩
  exact (hnone.addAll (Text.lines text)).spans s (List.mem_reverse.mp h)

end ArenaLisp
