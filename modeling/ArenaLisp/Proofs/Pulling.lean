import ArenaLisp.Proofs.Cutting

/-!
# Tokens and forms on demand

A source need not be read in one walk.  Whoever wants the next token *pulls* it from a cursor, which
reads as many characters as that takes.  A parenthesis that ends a symbol has then been read along
with the symbol, and the cursor holds it back for the next pull.  In the same way whoever wants the
next form pulls tokens until a form is complete.

A pull that fails gives up what was in progress, the characters of a symbol or the lists that were
open, and one may go on pulling behind the fault.  That this comes to an end is not for want of
characters alone: a token that was held back costs no character, and a fault at the end of the
source costs none either.  Both have been paid for in advance.

* `Pulled`, `PulledAll` — what comes up when one pulls some times, and until nothing is left.
* `Lexer.Cursor`, `Lexer.Cursor.next`, `Reader.next` — tokens and forms on demand.
* `Lexer.Cursor.Scanned` — the ways in which reading on for a token can go.
* `Lexer.Cursor.listed`, `Reader.listed` — what comes up is what one walk finds.
* `Lexer.length_events_le`, `Reader.length_forms_le` — there is no more of it than characters.
* **`pulling_ends_and_resumes`** — pulling ends, and starts afresh behind each fault.
-/

namespace ArenaLisp

/-! ## Pulling -/

section Pulling

variable {σ ε : Type} {next : σ → Option ε × σ}

/-- Pulling some times from a state: what came up, and the state that this leads to. -/
inductive Pulled (next : σ → Option ε × σ) : σ → List ε → σ → Prop where
  | nil {s : σ} : Pulled next s [] s
  | cons {s s' last : σ} {item : ε} {items : List ε} :
      next s = (some item, s') → Pulled next s' items last → Pulled next s (item :: items) last

/-- Pulling until nothing is left: all that came up. -/
def PulledAll (next : σ → Option ε × σ) (s : σ) (items : List ε) : Prop :=
  ∃ last, Pulled next s items last ∧ (next last).1 = none

/-- What came up last came up when one pulled from the state before. -/
lemma Pulled.of_concat {s last : σ} {item : ε} : ∀ {items : List ε},
    Pulled next s (items ++ [item]) last →
      ∃ s', Pulled next s items s' ∧ next s' = (some item, last) := by
  intro items
  induction items generalizing s with
  | nil =>
      intro h
      obtain _ | ⟨hnext, _ | _⟩ := h
      exact ⟨s, .nil, hnext⟩
  | cons first items ih =>
      intro h
      obtain _ | ⟨hnext, hrest⟩ := h
      obtain ⟨s', hs', hlast⟩ := ih hrest
      exact ⟨s', .cons hnext hs', hlast⟩

/-- All that can still be pulled from each state, as a list. -/
structure Listed (next : σ → Option ε × σ) (list : σ → List ε) : Prop where
  ended : ∀ {s s'}, next s = (none, s') → list s = []
  more : ∀ {s s' item}, next s = (some item, s') → list s = item :: list s'

variable {list : σ → List ε}

lemma Listed.append (h : Listed next list) {s s' : σ} {items : List ε}
    (hp : Pulled next s items s') : list s = items ++ list s' := by
  induction hp with
  | nil => rfl
  | cons hnext _ ih => rw [h.more hnext, ih, List.cons_append]

lemma Listed.length_le (h : Listed next list) {s s' : σ} {items : List ε}
    (hp : Pulled next s items s') : items.length ≤ (list s).length := by
  rw [h.append hp, List.length_append]
  exact Nat.le_add_right _ _

/-- Pulling comes to an end, and what has come up by then is the whole list.  The induction is on
the list: each pull takes one item off it. -/
lemma Listed.pulledAll (h : Listed next list) (s : σ) : PulledAll next s (list s) := by
  induction hlist : list s generalizing s with
  | nil =>
      rcases hnext : next s with ⟨_ | item, s'⟩
      · exact ⟨s, .nil, by rw [hnext]⟩
      · rw [h.more hnext] at hlist
        cases hlist
  | cons first rest ih =>
      rcases hnext : next s with ⟨_ | item, s'⟩
      · rw [h.ended hnext] at hlist
        cases hlist
      · rw [h.more hnext] at hlist
        obtain ⟨rfl, hrest⟩ := List.cons.inj hlist
        obtain ⟨last, hlast, hended⟩ := ih s' hrest
        exact ⟨last, .cons hnext hlast, hended⟩

end Pulling

/-! ## Tokens on demand -/

namespace Lexer

/-- A source in the middle of being read: the characters not yet read, the place that was reached,
and a parenthesis that was read along with the symbol before it. -/
structure Cursor where
  unread : List Char
  position : Position := .start
  pending : Option Token := none

namespace Cursor

/-- The cursor on a source of which nothing has been read. -/
def start (source : List Char) : Cursor := { unread := source }

/-- The token that a character completes besides a first one. -/
def held : List Event → Option Token
  | .ok token :: _ => some token
  | _ => none

/-- Reads on, from a place and a mode, until an event is complete. -/
def scan (place : Position) (mode : Mode) : List Char → Option Event × Cursor
  | [] => ((finish mode).head?, ⟨[], place, none⟩)
  | c :: rest =>
    match step c (place.after c) mode with
    | ([], mode) => scan (place.after c) mode rest
    | (event :: more, _) => (some event, ⟨rest, place.after c, held more⟩)

/-- **The next token or fault**, if there is one, and the cursor behind it. -/
def next (c : Cursor) : Option Event × Cursor :=
  match c.pending with
  | some token => (some (.ok token), { c with pending := none })
  | none => scan c.position .gap c.unread

/-- What one walk finds from a cursor on. -/
def pulls (c : Cursor) : List Pull :=
  (c.pending.map fun token => ⟨.ok token, c.position, c.unread⟩).toList ++
    pullsFrom c.position .gap c.unread

/-- The events that one walk finds from a cursor on. -/
def events (c : Cursor) : List Event := c.pulls.map (·.event)

lemma pulls_start (source : List Char) : (start source).pulls = Lexer.pulls source := rfl

end Cursor

/-- What one character can complete: nothing, one event, or a symbol and the parenthesis that ends
it.  With an event complete, the lexer is between tokens. -/
lemma step_cases (c : Char) (place : Position) (mode : Mode) :
    (∃ mode', step c place mode = ([], mode')) ∨
    (∃ event, step c place mode = ([event], .gap)) ∨
    ∃ token paren, step c place mode = ([.ok token, .ok paren], .gap) := by
  have hgap : (∃ mode', stepGap c place = ([], mode')) ∨
      ∃ event, stepGap c place = ([event], .gap) := by
    unfold stepGap
    split_ifs <;> simp
  cases mode with
  | gap => exact hgap.imp_right Or.inl
  | comment =>
      simp only [step]
      split_ifs
      · exact hgap.imp_right Or.inl
      · simp
  | string opened collected =>
      simp only [step]
      split_ifs <;> simp
  | escape opened collected => simp [step]
  | symbol collected =>
      simp only [step]
      split_ifs <;> simp

lemma pullsFrom_cons (place : Position) (mode : Mode) (c : Char) (rest : List Char) :
    pullsFrom place mode (c :: rest) =
      (step c (place.after c) mode).1.map (fun event => ⟨event, place.after c, rest⟩) ++
        pullsFrom (place.after c) (step c (place.after c) mode).2 rest := rfl

namespace Cursor

/-- How reading on from a place and a mode can go: the source ends, or a character completes
nothing and one reads on, or it completes an event, or a symbol and the parenthesis that ends it. -/
inductive Scanned : Position → Mode → List Char → Option Event → Cursor → Prop where
  | ended {place : Position} {mode : Mode} :
      Scanned place mode [] (finish mode).head? ⟨[], place, none⟩
  | more {place : Position} {mode mode' : Mode} {d : Char} {rest : List Char}
      {event? : Option Event} {c : Cursor} :
      step d (place.after d) mode = ([], mode') → Scanned (place.after d) mode' rest event? c →
      Scanned place mode (d :: rest) event? c
  | event {place : Position} {mode : Mode} {d : Char} {rest : List Char} {event : Event} :
      step d (place.after d) mode = ([event], .gap) →
      Scanned place mode (d :: rest) (some event) ⟨rest, place.after d, none⟩
  | symbol {place : Position} {mode : Mode} {d : Char} {rest : List Char} {token paren : Token} :
      step d (place.after d) mode = ([.ok token, .ok paren], .gap) →
      Scanned place mode (d :: rest) (some (.ok token)) ⟨rest, place.after d, some paren⟩

lemma scanned : ∀ {text : List Char} {place : Position} {mode : Mode} {event? : Option Event}
    {c : Cursor}, scan place mode text = (event?, c) → Scanned place mode text event? c := by
  intro text
  induction text with
  | nil =>
      intro place mode event? c h
      cases h
      exact .ended
  | cons d rest ih =>
      intro place mode event? c h
      rcases step_cases d (place.after d) mode with
        ⟨mode', hstep⟩ | ⟨event, hstep⟩ | ⟨token, paren, hstep⟩ <;>
        simp only [scan, hstep] at h
      · exact .more hstep (ih h)
      · cases h
        exact .event hstep
      · cases h
        exact .symbol hstep

namespace Scanned

variable {text : List Char} {place : Position} {mode : Mode} {event? : Option Event} {c : Cursor}

/-- Reading on finds what one walk finds. -/
lemma pullsFrom_eq (h : Scanned place mode text event? c) :
    pullsFrom place mode text =
      (event?.map fun event => ⟨event, c.position, c.unread⟩).toList ++ c.pulls := by
  induction h with
  | @ended place mode => cases mode <;> rfl
  | more hstep _ ih =>
      rw [pullsFrom_cons, hstep]
      exact ih
  | event hstep =>
      rw [pullsFrom_cons, hstep]
      rfl
  | symbol hstep =>
      rw [pullsFrom_cons, hstep]
      rfl

/-- Reading on takes characters off the front of the text. -/
lemma suffix (h : Scanned place mode text event? c) : c.unread <:+ text := by
  induction h with
  | ended => exact List.suffix_refl []
  | @more _ _ _ d _ _ _ _ _ ih => exact ih.trans (List.suffix_cons d _)
  | @event _ _ d => exact List.suffix_cons d _
  | @symbol _ _ d => exact List.suffix_cons d _

/-- At the end of the source nothing is left. -/
lemma left_nil (h : Scanned place mode text event? c) (hnone : event? = none) :
    c.unread = [] ∧ c.pending = none := by
  induction h with
  | ended => exact ⟨rfl, rfl⟩
  | more _ _ ih => exact ih hnone
  | event _ => cases hnone
  | symbol _ => cases hnone

/-- No parenthesis is held back behind a fault. -/
lemma pending_eq_none {fault : LexFault} (h : Scanned place mode text event? c)
    (hfault : event? = some (.error fault)) : c.pending = none := by
  induction h with
  | ended => rfl
  | more _ _ ih => exact ih hfault
  | event _ => rfl
  | symbol _ => cases hfault

end Scanned

lemma suffix_of_next {c c' : Cursor} {event? : Option Event} (h : c.next = (event?, c')) :
    c'.unread <:+ c.unread := by
  obtain ⟨unread, position, _ | token⟩ := c
  · exact (scanned h).suffix
  · cases h
    exact List.suffix_refl unread

/-- What is pulled is read off the front of the source. -/
lemma suffix_of_pulled {c c' : Cursor} {items : List Event} (h : Pulled next c items c') :
    c'.unread <:+ c.unread := by
  induction h with
  | nil => exact List.suffix_refl _
  | cons hnext _ ih => exact ih.trans (suffix_of_next hnext)

lemma pulls_of_next {c c' : Cursor} {event? : Option Event} (h : c.next = (event?, c')) :
    c.pulls = (event?.map fun event => ⟨event, c'.position, c'.unread⟩).toList ++ c'.pulls := by
  obtain ⟨unread, position, _ | token⟩ := c
  · exact (scanned h).pullsFrom_eq
  · cases h
    rfl

lemma pulls_of_ended {c c' : Cursor} (h : c.next = (none, c')) : c'.pulls = [] := by
  obtain ⟨unread, position, _ | token⟩ := c
  · obtain ⟨hunread, hpending⟩ := (scanned h).left_nil rfl
    rw [pulls, hunread, hpending]
    rfl
  · cases h

/-- **Pulling tokens** until none is left yields the events of one walk. -/
theorem listed : Listed next events where
  ended h := by
    rw [events, pulls_of_next h, pulls_of_ended h]
    rfl
  more h := by
    rw [events, pulls_of_next h]
    rfl

lemma pending_of_error {c c' : Cursor} {fault : LexFault}
    (h : c.next = (some (.error fault), c')) : c'.pending = none := by
  obtain ⟨unread, position, _ | token⟩ := c
  · exact (scanned h).pending_eq_none rfl
  · cases h

/-- With nothing held back, a cursor gives what a fresh one gives on the same characters, but for
the places that faults name. -/
lemma events_placeless {c : Cursor} (h : c.pending = none) :
    c.events.map placeless = (Lexer.events c.unread).map placeless := by
  have hevents : c.events = eventsFrom c.position .gap c.unread := by
    rw [events, pulls, h]
    rfl
  rw [hevents]
  exact eventsFrom_placeless c.unread c.position .start rfl

end Cursor

/-! ## No more tokens than characters -/

/-- What a mode owes for the characters that it has read: a string or a symbol in progress may still
be an event of its own when the source ends. -/
def Mode.owed : Mode → Nat
  | .gap | .comment => 0
  | .string .. | .escape .. | .symbol _ => 1

/-- Each character pays for one event. -/
lemma owed_step (c : Char) (place : Position) (mode : Mode) :
    (step c place mode).1.length + (step c place mode).2.owed ≤ mode.owed + 1 := by
  have hgap : (stepGap c place).1.length + (stepGap c place).2.owed ≤ 1 := by
    unfold stepGap
    split_ifs <;> simp [Mode.owed]
  cases mode with
  | gap => exact hgap
  | comment =>
      simp only [step]
      split_ifs
      · exact hgap
      · simp [Mode.owed]
  | string opened collected =>
      simp only [step]
      split_ifs <;> simp [Mode.owed]
  | escape opened collected => simp [step, Mode.owed]
  | symbol collected =>
      simp only [step]
      split_ifs <;> simp [Mode.owed]

lemma length_eventsFrom_le : ∀ (text : List Char) (place : Position) (mode : Mode),
    (eventsFrom place mode text).length ≤ mode.owed + text.length := by
  intro text
  induction text with
  | nil =>
      intro place mode
      rw [eventsFrom_nil]
      cases mode <;> simp [finish, Mode.owed]
  | cons c rest ih =>
      intro place mode
      have hstep := owed_step c (place.after c) mode
      have hrest := ih (place.after c) (step c (place.after c) mode).2
      rw [eventsFrom_cons, List.length_append, List.length_cons]
      omega

lemma length_events_le (source : List Char) : (events source).length ≤ source.length := by
  have h := length_eventsFrom_le source .start .gap
  rwa [Mode.owed, Nat.zero_add] at h

end Lexer

/-! ## Forms on demand -/

namespace Reader

open Lexer (Cursor)

/-- Pulls tokens, with some lists open, until a form or a fault is complete. -/
def nextFrom (lists : Open) (c : Cursor) : Option (Except ReadFault Node) × Cursor :=
  match _ : c.next with
  | (none, c') => (finish lists, c')
  | (some event, c') =>
    match step event lists with
    | (some form, _) => (some form, c')
    | (none, lists') => nextFrom lists' c'
termination_by c.events.length
decreasing_by
  rw [Cursor.listed.more ‹c.next = _›]
  exact Nat.lt_succ_self _

/-- **The next form or fault**, if there is one, and the cursor behind its last token. -/
def next (c : Cursor) : Option (Except ReadFault Node) × Cursor := nextFrom [] c

lemma nextFrom_ended {lists : Open} {c c' : Cursor} (h : c.next = (none, c')) :
    nextFrom lists c = (finish lists, c') := by
  rw [nextFrom]
  split <;> simp_all

lemma nextFrom_complete {lists lists' : Open} {c c' : Cursor} {event : Lexer.Event}
    {form : Except ReadFault Node} (h : c.next = (some event, c'))
    (hstep : step event lists = (some form, lists')) :
    nextFrom lists c = (some form, c') := by
  rw [nextFrom]
  split <;> simp_all

lemma nextFrom_more {lists lists' : Open} {c c' : Cursor} {event : Lexer.Event}
    (h : c.next = (some event, c')) (hstep : step event lists = (none, lists')) :
    nextFrom lists c = nextFrom lists' c' := by
  rw [nextFrom]
  split <;> simp_all

/-- With a form or a fault complete, no list is open. -/
lemma step_complete {event : Lexer.Event} {lists lists' : Open} {form : Except ReadFault Node}
    (h : step event lists = (some form, lists')) : lists' = [] := by
  have hplace : ∀ {node : Node} {lists : Open}, place node lists = (some form, lists') →
      lists' = [] := by
    intro node lists h
    cases lists <;> cases h
    rfl
  cases event with
  | error fault =>
      cases h
      rfl
  | ok token =>
      simp only [step, stepToken] at h
      split at h
      · cases h
      · split at h
        · cases h
          rfl
        · exact hplace h
      · exact hplace h
      · split at h
        · exact hplace h
        · cases h
          rfl
      · cases h
        rfl

lemma formsFrom_cons (lists : Open) (event : Lexer.Event) (rest : List Lexer.Event) :
    formsFrom lists (event :: rest) =
      (step event lists).1.toList ++ formsFrom (step event lists).2 rest := rfl

/-- Pulling until a form is complete finds the first form of one walk, and leaves the rest of the
tokens to a reader with no list open. -/
lemma formsFrom_of_nextFrom (lists : Open) (c : Cursor) :
    formsFrom lists c.events =
      match nextFrom lists c with
      | (none, _) => []
      | (some form, c') => form :: forms c'.events := by
  induction lists, c using nextFrom.induct with
  | case1 lists c c' hnext =>
      rw [nextFrom_ended hnext, Cursor.listed.ended hnext, formsFrom]
      cases finish lists with
      | none => rfl
      | some form =>
          show [form] = form :: forms c'.events
          rw [Cursor.events, Cursor.pulls_of_ended hnext]
          rfl
  | case2 lists c event c' hnext form lists' hstep =>
      rw [nextFrom_complete hnext hstep, Cursor.listed.more hnext, formsFrom_cons, hstep,
        step_complete hstep]
      rfl
  | case3 lists c event c' hnext lists' hstep ih =>
      rw [nextFrom_more hnext hstep, Cursor.listed.more hnext, formsFrom_cons, hstep]
      exact ih

/-- **Pulling forms** until none is left yields the forms of one walk. -/
theorem listed : Listed next (fun c => forms c.events) where
  ended {c _} h := by
    have hforms := formsFrom_of_nextFrom [] c
    rwa [show nextFrom [] c = _ from h] at hforms
  more {c _ _} h := by
    have hforms := formsFrom_of_nextFrom [] c
    rwa [show nextFrom [] c = _ from h] at hforms

/-! ## No more forms than characters -/

/-- What open lists owe for the tokens that they have taken: the end of the source may still be a
fault for them. -/
def owed (lists : Open) : Nat := if lists.isEmpty then 0 else 1

/-- Each token pays for one form. -/
lemma owed_step (event : Lexer.Event) (lists : Open) :
    (step event lists).1.toList.length + owed (step event lists).2 ≤ owed lists + 1 := by
  rcases hstep : step event lists with ⟨_ | form, lists'⟩
  · have hle : owed lists' ≤ 1 := by
      unfold owed
      split_ifs <;> omega
    simp only [Option.toList_none, List.length_nil]
    omega
  · rw [step_complete hstep]
    simp [owed]

lemma length_formsFrom_le : ∀ (events : List Lexer.Event) (lists : Open),
    (formsFrom lists events).length ≤ owed lists + events.length := by
  intro events
  induction events with
  | nil =>
      intro lists
      simp only [formsFrom, finish, owed]
      split_ifs <;> simp
  | cons event rest ih =>
      intro lists
      have hstep := owed_step event lists
      have hrest := ih (step event lists).2
      rw [formsFrom_cons, List.length_append, List.length_cons]
      omega

lemma length_forms_le (events : List Lexer.Event) : (forms events).length ≤ events.length := by
  have h := length_formsFrom_le events []
  rwa [owed, List.isEmpty_nil, if_pos rfl, Nat.zero_add] at h

end Reader

open Lexer (Cursor)

/-- **Pulling ends, and starts afresh behind each fault.**  However often one pulls tokens, past
every fault, no more comes up than the source has characters; in the end nothing is left, and the
events of the source have come up.  Behind a fault no parenthesis is held back, and what comes up
from there is what a fresh cursor gives on the characters that are not read yet, but for the places
that faults name.  The same holds of forms: no more of them come up than there are characters, and
behind a fault, those of a fresh reader of the tokens that are left. -/
theorem pulling_ends_and_resumes (source : List Char) :
    (PulledAll Cursor.next (.start source) (Lexer.events source) ∧
      (∀ items c, Pulled Cursor.next (.start source) items c → items.length ≤ source.length) ∧
      ∀ before fault c, Pulled Cursor.next (.start source) (before ++ [.error fault]) c →
        c.unread <:+ source ∧ c.pending = none ∧
          ∃ later fresh, PulledAll Cursor.next c later ∧
            PulledAll Cursor.next (.start c.unread) fresh ∧
              later.map Lexer.placeless = fresh.map Lexer.placeless) ∧
    PulledAll Reader.next (.start source) (Reader.forms (Lexer.events source)) ∧
      (∀ forms c, Pulled Reader.next (.start source) forms c → forms.length ≤ source.length) ∧
      ∀ before fault c, Pulled Reader.next (.start source) (before ++ [.error fault]) c →
        ∃ tokens, PulledAll Cursor.next c tokens ∧
          PulledAll Reader.next c (Reader.forms tokens) := by
  refine ⟨⟨Cursor.listed.pulledAll (.start source), ?_, ?_⟩,
    Reader.listed.pulledAll (.start source), ?_, ?_⟩
  · intro items c h
    exact (Cursor.listed.length_le h).trans (Lexer.length_events_le source)
  · intro before fault c h
    obtain ⟨c₀, -, hnext⟩ := h.of_concat
    have hpending := Cursor.pending_of_error hnext
    exact ⟨Cursor.suffix_of_pulled h, hpending, c.events, Lexer.events c.unread,
      Cursor.listed.pulledAll c, Cursor.listed.pulledAll (.start c.unread),
      Cursor.events_placeless hpending⟩
  · intro forms c h
    calc forms.length
        ≤ (Reader.forms (Lexer.events source)).length := Reader.listed.length_le h
      _ ≤ (Lexer.events source).length := Reader.length_forms_le _
      _ ≤ source.length := Lexer.length_events_le source
  · intro before fault c _
    exact ⟨c.events, Cursor.listed.pulledAll c, Reader.listed.pulledAll c⟩

/-- A character that no symbol can hold, inside a list: the symbol and the list are given up, and
the parenthesis behind them closes a list that was never opened. -/
theorem pulling_resumes_inside_list : ∃ c : Cursor,
    Pulled Cursor.next (.start ['(', 'a', 'é', ')', ' ', 'b'])
      ([.ok .openParen] ++ [.error (.invalidCharacter 'é' "a" ⟨1, 3⟩)]) c ∧
    c.unread = [')', ' ', 'b'] ∧ c.pending = none ∧
    (∃ later fresh, PulledAll Cursor.next c later ∧ PulledAll Cursor.next (.start c.unread) fresh ∧
      later.map Lexer.placeless = fresh.map Lexer.placeless) ∧
    Pulled Reader.next (.start ['(', 'a', 'é', ')', ' ', 'b'])
      ([] ++ [.error (.lexical (.invalidCharacter 'é' "a" ⟨1, 3⟩))]) c ∧
    (∃ tokens, PulledAll Cursor.next c tokens ∧
      PulledAll Reader.next c (Reader.forms tokens)) ∧
    Reader.forms c.events = [.error .closedWithoutList, .ok (.symbol "b")] := by
  have htokens : Pulled Cursor.next (.start ['(', 'a', 'é', ')', ' ', 'b'])
      ([.ok .openParen] ++ [.error (.invalidCharacter 'é' "a" ⟨1, 3⟩)])
      ⟨[')', ' ', 'b'], ⟨1, 3⟩, none⟩ := .cons rfl (.cons rfl .nil)
  have hforms : Pulled Reader.next (.start ['(', 'a', 'é', ')', ' ', 'b'])
      ([] ++ [.error (.lexical (.invalidCharacter 'é' "a" ⟨1, 3⟩))])
      ⟨[')', ' ', 'b'], ⟨1, 3⟩, none⟩ :=
    .cons ((Reader.nextFrom_more rfl rfl).trans (Reader.nextFrom_complete rfl rfl)) .nil
  obtain ⟨⟨-, -, hresume⟩, -, -, hresume'⟩ :=
    pulling_ends_and_resumes ['(', 'a', 'é', ')', ' ', 'b']
  obtain ⟨-, hpending, hlater⟩ := hresume _ _ _ htokens
  exact ⟨_, htokens, rfl, hpending, hlater, hforms, hresume' _ _ _ hforms, rfl⟩

end ArenaLisp
