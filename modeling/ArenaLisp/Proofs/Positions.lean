import ArenaLisp.Fault.Wording
import ArenaLisp.Proofs.Lexemes
import ArenaLisp.Proofs.Pulling

/-!
# Where faults are found

A lexical fault names a place, and a place is a pair of counters that are moved over every character
that is read, in gaps, in comments, in strings and in symbols.  Said without counters, a place is a
matter of line feeds: how many there are before a character, and how far back the last of them is.
The counters keep to that from pull to pull, whatever has been read, and behind each fault.

Which character a fault is about is said here by the grammar of tokens.  It is a character that
nothing starts with, or one that neither goes on with a symbol nor ends it, or the quote of a string
that is never closed.

* `Position.behind`, `Position.following` — the place behind a text, and that of the next character.
* `LexFault.Located` — a fault at its character.
* `Lexer.Reached`, `Lexer.InProgress` — what has been read when the lexer is in some mode.
* `Lexer.Cursor.Behind.next` — one pull.
* **`faults_located`** — every fault names its place, and every pull leaves that which it reached.
-/

namespace ArenaLisp

open Lexer

/-! ## Places in a text -/

/-- How many characters of a text stand behind its last line feed. -/
def Text.sinceFeed (text : List Char) : Nat := (text.reverse.takeWhile (· ≠ '\n')).length

namespace Position

/-- The place behind a text. -/
def behind (text : List Char) : Position := ⟨1 + text.count '\n', Text.sinceFeed text⟩

/-- The place of the character that follows a text: the number of its line is one plus that of the
line feeds before it, and its column the number of characters behind the last of them, the character
itself included. -/
def following (text : List Char) : Position := ⟨1 + text.count '\n', Text.sinceFeed text + 1⟩

lemma behind_concat (text : List Char) (c : Char) :
    behind (text ++ [c]) = (behind text).after c := by
  by_cases hc : c = '\n'
  · subst hc
    simp [behind, after, Text.sinceFeed, Nat.add_assoc]
  · simp [behind, after, Text.sinceFeed, hc]

lemma after_behind {c : Char} (hc : c ≠ '\n') (text : List Char) :
    (behind text).after c = following text := by
  rw [after, if_neg hc]
  rfl

end Position

/-- The place that a fault names. -/
def LexFault.place : LexFault → Position
  | .invalidToken _ place => place
  | .invalidCharacter _ _ place => place
  | .unterminatedString place => place

/-- Behind a text with some events, whatever follows is cut into tokens as a text of its own. -/
def StartsAfresh (es : List Event) (before : List Char) : Prop :=
  ∀ rest, ∃ more, events (before ++ rest) = es ++ more ∧
    more.map placeless = (events rest).map placeless

/-- The characters behind an opening quote, of which none closes the string. -/
def Unclosed (body : List Char) : Prop :=
  ∃ inner text, Escaped inner text ∧ (body = inner ∨ body = inner ++ ['\\'])

/-- **A fault at its character**, with the characters that have been read when it is found and the
events found before it. -/
inductive LexFault.Located (es : List Event) : List Char → LexFault → Prop where
  | invalidToken {before : List Char} {c : Char} :
      events before = es → (∀ rest gap, ¬ Gap rest (c :: gap)) →
      (∀ lexeme token, ¬ Lexeme (c :: lexeme) token) →
      Located es (before ++ [c]) (.invalidToken c (.following before))
  | invalidCharacter {before symbol : List Char} {c : Char} :
      StartsAfresh es before → Lexeme symbol ⟨.symbol, String.ofList symbol⟩ →
      isSymbolChar c = false → ¬ EndsSymbol [c] →
      Located es (before ++ symbol ++ [c])
        (.invalidCharacter c (String.ofList symbol) (.following (before ++ symbol)))
  | unterminatedString {before body : List Char} :
      StartsAfresh es before → Unclosed body →
      Located es (before ++ '"' :: body) (.unterminatedString (.following before))

/-- The message of a fault ends with its place. -/
lemma LexFault.message_place (fault : LexFault) : ∃ what,
    (Fault.read (.lexical fault)).message =
      what ++ " line " ++ toString fault.place.line ++ ", column " ++
        toString fault.place.column := by
  cases fault with
  | invalidToken c place =>
      refine ⟨"invalid token " ++ Text.quoted c.toString ++ " at", ?_⟩
      show String.join ["invalid token ", Text.quoted c.toString, " at line ", toString place.line,
        ", column ", toString place.column] = _
      simp [String.join, LexFault.place, String.append_assoc]
  | invalidCharacter c symbol place =>
      refine ⟨"invalid character " ++ Text.quoted c.toString ++ " in symbol '" ++ symbol ++ "' at",
        ?_⟩
      show String.join ["invalid character ", Text.quoted c.toString, " in symbol '", symbol,
        "' at line ", toString place.line, ", column ", toString place.column] = _
      simp [String.join, LexFault.place, String.append_assoc]
  | unterminatedString place =>
      refine ⟨"unterminated string starting at", ?_⟩
      show String.join ["unterminated string starting at line ", toString place.line, ", column ",
        toString place.column] = _
      simp [String.join, LexFault.place, String.append_assoc]

/-! ## What has been read -/

lemma Escaped.append {body text body' text' : List Char} (h : Escaped body text)
    (h' : Escaped body' text') : Escaped (body ++ body') (text ++ text') := by
  induction h with
  | nil => exact h'
  | plain hquote hslash _ ih => exact .plain hquote hslash ih
  | escape _ ih => exact .escape ih

lemma Lexeme.symbol_concat {symbol : List Char} {c : Char}
    (h : Lexeme symbol ⟨.symbol, String.ofList symbol⟩) (hc : isSymbolChar c = true) :
    Lexeme (symbol ++ [c]) ⟨.symbol, String.ofList (symbol ++ [c])⟩ := by
  cases h with
  | symbol hhash hall =>
      refine .symbol hhash ?_
      simpa [hc, or_imp, forall_and] using hall

namespace Lexer

/-- The lexer is in a mode when it has read some characters and found some events: whatever follows
is read from there. -/
def Reached (es : List Event) (consumed : List Char) (mode : Mode) : Prop :=
  ∀ rest, events (consumed ++ rest) = es ++ eventsFrom (.behind consumed) mode rest

lemma Reached.start : Reached [] [] .gap := fun _ => rfl

lemma Reached.step {es done : List Event} {consumed : List Char} {mode mode' : Mode} {c : Char}
    (h : Reached es consumed mode)
    (hstep : step c ((Position.behind consumed).after c) mode = (done, mode')) :
    Reached (es ++ done) (consumed ++ [c]) mode' := by
  intro rest
  rw [List.append_assoc, List.singleton_append, h (c :: rest), eventsFrom_of_step hstep,
    Position.behind_concat, List.append_assoc]

lemma Reached.events_eq {es : List Event} {consumed : List Char} {mode : Mode}
    (h : Reached es consumed mode) : events consumed = es ++ finish mode := by
  have hend := h []
  rwa [List.append_nil, eventsFrom_nil] at hend

lemma Reached.startsAfresh {es : List Event} {before : List Char} (h : Reached es before .gap) :
    StartsAfresh es before :=
  fun rest => ⟨_, h rest, eventsFrom_placeless rest _ _ rfl⟩

/-- The string or the symbol that the lexer is in the middle of. -/
def InProgress (es : List Event) (consumed : List Char) : Mode → Prop
  | .gap | .comment => True
  | .string opened collected => ∃ before body, consumed = before ++ '"' :: body ∧
      opened = .following before ∧ Reached es before .gap ∧ Escaped body collected.reverse
  | .escape opened collected => ∃ before body, consumed = before ++ '"' :: (body ++ ['\\']) ∧
      opened = .following before ∧ Reached es before .gap ∧ Escaped body collected.reverse
  | .symbol collected => ∃ before, consumed = before ++ collected.reverse ∧
      Reached es before .gap ∧ Lexeme collected.reverse (symbolToken collected)

/-- A character between tokens that completes nothing and starts something. -/
lemma inProgress_stepGap {es : List Event} {consumed : List Char} {c : Char} {mode' : Mode}
    (h : Reached es consumed .gap)
    (hstep : stepGap c ((Position.behind consumed).after c) = ([], mode')) :
    InProgress es (consumed ++ [c]) mode' := by
  unfold stepGap at hstep
  split_ifs at hstep with hblank hhash hopen hclose hquote hsymbol <;> cases hstep
  · trivial
  · trivial
  · subst hquote
    exact ⟨consumed, [], rfl, Position.after_behind (by decide) consumed, h, .nil⟩
  · exact ⟨consumed, rfl, h, .symbol hhash (by simpa using hsymbol)⟩

/-- A character between tokens that is a fault. -/
lemma located_stepGap {es : List Event} {consumed : List Char} {c : Char} {mode' : Mode}
    {fault : LexFault} (h : events consumed = es)
    (hstep : stepGap c ((Position.behind consumed).after c) = ([.error fault], mode')) :
    fault.Located es (consumed ++ [c]) := by
  unfold stepGap at hstep
  split_ifs at hstep with hblank hhash hopen hclose hquote hsymbol <;> cases hstep
  have hfeed : c ≠ '\n' := by
    rintro rfl
    exact hblank (by decide)
  rw [Position.after_behind hfeed]
  refine .invalidToken h ?_ ?_
  · rintro rest gap (_ | hc | _)
    · exact hblank hc
    · exact hhash rfl
  · rintro lexeme token (_ | _ | _ | ⟨-, hall⟩)
    · exact hopen rfl
    · exact hclose rfl
    · exact hquote rfl
    · exact hsymbol (hall c List.mem_cons_self)

/-- **One character** that completes nothing: what the lexer is in the middle of grows by it. -/
lemma InProgress.step {es : List Event} {consumed : List Char} {mode mode' : Mode} {c : Char}
    (hreached : Reached es consumed mode) (h : InProgress es consumed mode)
    (hstep : step c ((Position.behind consumed).after c) mode = ([], mode')) :
    InProgress es (consumed ++ [c]) mode' := by
  cases mode with
  | gap => exact inProgress_stepGap hreached hstep
  | comment =>
      simp only [Lexer.step] at hstep
      split_ifs at hstep with hc
      · -- a control character that completes nothing is a blank
        by_cases hblank : Text.isBlank c = true
        · simp [stepGap, hblank] at hstep
          subst hstep
          trivial
        · rw [stepGap_of_isControl hc (by simpa using hblank)] at hstep
          cases hstep
      · cases hstep
        trivial
  | string opened collected =>
      obtain ⟨before, body, rfl, hopened, hbefore, hbody⟩ := h
      simp only [Lexer.step] at hstep
      split_ifs at hstep with hquote hslash <;> cases hstep
      · subst hslash
        exact ⟨before, body, by simp, hopened, hbefore, hbody⟩
      · refine ⟨before, body ++ [c], by simp, hopened, hbefore, ?_⟩
        rw [List.reverse_cons]
        exact hbody.append (.plain hquote hslash .nil)
  | escape opened collected =>
      obtain ⟨before, body, rfl, hopened, hbefore, hbody⟩ := h
      cases hstep
      refine ⟨before, body ++ ['\\', c], by simp, hopened, hbefore, ?_⟩
      rw [List.reverse_cons]
      exact hbody.append (.escape .nil)
  | symbol collected =>
      obtain ⟨before, rfl, hbefore, hsymbol⟩ := h
      simp only [Lexer.step] at hstep
      split_ifs at hstep with hblank hopen hclose hchar <;> cases hstep
      refine ⟨before, by simp, hbefore, ?_⟩
      rw [symbolToken, List.reverse_cons]
      exact hsymbol.symbol_concat hchar

/-- One character that is a fault. -/
lemma InProgress.located {es : List Event} {consumed : List Char} {mode mode' : Mode} {c : Char}
    {fault : LexFault} (hreached : Reached es consumed mode) (h : InProgress es consumed mode)
    (hstep : Lexer.step c ((Position.behind consumed).after c) mode = ([.error fault], mode')) :
    fault.Located es (consumed ++ [c]) := by
  cases mode with
  | gap => exact located_stepGap (by simpa [finish] using hreached.events_eq) hstep
  | comment =>
      simp only [Lexer.step] at hstep
      split_ifs at hstep with hc
      · exact located_stepGap (by simpa [finish] using hreached.events_eq) hstep
      · cases hstep
  | string opened collected =>
      simp only [Lexer.step] at hstep
      split_ifs at hstep <;> cases hstep
  | escape opened collected => cases hstep
  | symbol collected =>
      obtain ⟨before, rfl, hbefore, hsymbol⟩ := h
      simp only [Lexer.step] at hstep
      split_ifs at hstep with hblank hopen hclose hchar <;> cases hstep
      have hfeed : c ≠ '\n' := by
        rintro rfl
        exact hblank (by decide)
      rw [Position.after_behind hfeed]
      refine .invalidCharacter hbefore.startsAfresh hsymbol (by simpa using hchar) ?_
      rintro (hc | hc | hc)
      · exact hopen hc
      · exact hclose hc
      · exact hblank hc

/-- The end of the source. -/
lemma InProgress.located_finish {es : List Event} {consumed : List Char} {mode : Mode}
    {fault : LexFault} (h : InProgress es consumed mode)
    (hfinish : (finish mode).head? = some (.error fault)) : fault.Located es consumed := by
  cases mode with
  | gap => cases hfinish
  | comment => cases hfinish
  | symbol collected => cases hfinish
  | string opened collected =>
      obtain ⟨before, body, rfl, rfl, hbefore, hbody⟩ := h
      cases hfinish
      exact .unterminatedString hbefore.startsAfresh ⟨body, _, hbody, Or.inl rfl⟩
  | escape opened collected =>
      obtain ⟨before, body, rfl, rfl, hbefore, hbody⟩ := h
      cases hfinish
      exact .unterminatedString hbefore.startsAfresh ⟨body, _, hbody, Or.inr rfl⟩

/-! ## From pull to pull -/

namespace Cursor

/-- A cursor that has been pulled some times: what has been read, and the events that came up.  What
follows is read from there, unless the source has ended, which may have ended a symbol. -/
structure Behind (c : Cursor) (source : List Char) (es : List Event) (consumed : List Char) :
    Prop where
  source_eq : source = consumed ++ c.unread
  position_eq : c.position = .behind consumed
  reached : c.unread = [] ∧ c.pending = none ∨
    Reached (es ++ (c.pending.map .ok).toList) consumed .gap

lemma behind_start (source : List Char) : (start source).Behind source [] [] :=
  ⟨rfl, rfl, Or.inr .start⟩

/-- Reading on until an event is complete. -/
lemma behind_of_scanned {source text : List Char} {es : List Event} {place : Position} {mode : Mode}
    {event? : Option Event} {c : Cursor} (h : Scanned place mode text event? c) :
    ∀ {consumed : List Char}, place = .behind consumed → source = consumed ++ text →
      Reached es consumed mode → InProgress es consumed mode →
        ∃ consumed', c.Behind source (es ++ event?.toList) consumed' ∧
          ∀ fault, event? = some (.error fault) → fault.Located es consumed' := by
  induction h with
  | ended =>
      rintro consumed rfl hsource hreached hprogress
      exact ⟨consumed, ⟨hsource, rfl, Or.inl ⟨rfl, rfl⟩⟩, fun fault => hprogress.located_finish⟩
  | more hstep _ ih =>
      rintro consumed rfl hsource hreached hprogress
      have hreached' := hreached.step hstep
      rw [List.append_nil] at hreached'
      exact ih (Position.behind_concat _ _).symm (by simpa using hsource) hreached'
        (hprogress.step hreached hstep)
  | @event _ _ d _ _ hstep =>
      rintro consumed rfl hsource hreached hprogress
      refine ⟨consumed ++ [d], ⟨by simpa using hsource, ?_, Or.inr ?_⟩, ?_⟩
      · exact (Position.behind_concat _ _).symm
      · simpa using hreached.step hstep
      · rintro fault ⟨⟩
        exact hprogress.located hreached hstep
  | @symbol _ _ d _ _ _ hstep =>
      rintro consumed rfl hsource hreached _
      refine ⟨consumed ++ [d], ⟨by simpa using hsource, ?_, Or.inr ?_⟩, ?_⟩
      · exact (Position.behind_concat _ _).symm
      · simpa using hreached.step hstep
      · rintro fault ⟨⟩

/-- **One pull.** -/
lemma Behind.next {source : List Char} {es : List Event} {consumed : List Char} {c c' : Cursor}
    {event? : Option Event} (h : c.Behind source es consumed) (hnext : c.next = (event?, c')) :
    ∃ consumed', c'.Behind source (es ++ event?.toList) consumed' ∧
      ∀ fault, event? = some (.error fault) → fault.Located es consumed' := by
  obtain ⟨unread, position, _ | token⟩ := c
  · obtain ⟨hsource, rfl, ⟨rfl, -⟩ | hreached⟩ := h
    · -- the source has ended
      cases hnext
      exact ⟨consumed, ⟨hsource, rfl, Or.inl ⟨rfl, rfl⟩⟩, by rintro fault ⟨⟩⟩
    · rw [Option.map_none, Option.toList_none, List.append_nil] at hreached
      exact behind_of_scanned (scanned hnext) rfl hsource hreached trivial
  · -- the token was held back, and no character is read
    obtain ⟨hsource, hposition, ⟨-, hnone⟩ | hreached⟩ := h
    · cases hnone
    · cases hnext
      refine ⟨consumed, ⟨hsource, hposition, Or.inr ?_⟩, by rintro fault ⟨⟩⟩
      simpa using hreached

/-- **Any number of pulls.**  The induction is on the pulls. -/
lemma Behind.pulled {source : List Char} {c c' : Cursor} {items : List Event}
    (hpulled : Pulled Cursor.next c items c') : ∀ {es : List Event} {consumed : List Char},
      c.Behind source es consumed → ∃ consumed', c'.Behind source (es ++ items) consumed' := by
  induction hpulled with
  | nil => exact fun h => ⟨_, by rwa [List.append_nil]⟩
  | cons hnext _ ih =>
      intro es consumed h
      obtain ⟨consumed', h', -⟩ := h.next hnext
      obtain ⟨consumed'', h''⟩ := ih h'
      rw [Option.toList_some, List.append_assoc, List.singleton_append] at h''
      exact ⟨consumed'', h''⟩

lemma pulls_of_pulled {c c' : Cursor} {items : List Event} (h : Pulled Cursor.next c items c') :
    ∃ done, done.length = items.length ∧ c.pulls = done ++ c'.pulls := by
  induction h with
  | nil => exact ⟨[], rfl, rfl⟩
  | cons hnext _ ih =>
      obtain ⟨done, hlength, hpulls⟩ := ih
      rw [pulls_of_next hnext, hpulls]
      exact ⟨_ :: done, congrArg (· + 1) hlength, rfl⟩

lemma head_pulls {c c' : Cursor} {event? : Option Event} (h : c.next = (event?, c')) :
    c.pulls[0]? = event?.map fun event => ⟨event, c'.position, c'.unread⟩ := by
  rw [pulls_of_next h]
  cases event? with
  | none =>
      rw [pulls_of_ended h]
      rfl
  | some event => rfl

end Cursor

end Lexer

/-- **Every fault names its place.**  Pull a source some times, past whatever faults there are, and
then once more.  This is the pull that one walk over the source finds with that number.  The
characters that have been read by now, with those that have not, make up the source, and the
counters are at the place behind them.  If a fault came up, it is found at its character: the place
that it names, with which its message ends, is that of the character that starts nothing or that
breaks the symbol, or of the quote that opens the string. -/
theorem faults_located {source : List Char} {es : List Event} {c c' : Cursor}
    {event? : Option Event} (hpulled : Pulled Cursor.next (.start source) es c)
    (hnext : c.next = (event?, c')) :
    (pulls source)[es.length]? = event?.map (fun event => ⟨event, c'.position, c'.unread⟩) ∧
    ∃ consumed, source = consumed ++ c'.unread ∧ c'.position = .behind consumed ∧
      ∀ fault, event? = some (.error fault) → fault.Located es consumed ∧
        ∃ what, (Fault.read (.lexical fault)).message =
          what ++ " line " ++ toString fault.place.line ++ ", column " ++
            toString fault.place.column := by
  constructor
  · obtain ⟨done, hlength, hpulls⟩ := Cursor.pulls_of_pulled hpulled
    rw [← Cursor.pulls_start, hpulls, ← hlength, List.getElem?_append_right (Nat.le_refl _),
      Nat.sub_self, Cursor.head_pulls hnext]
  · obtain ⟨consumed, hc⟩ := Cursor.Behind.pulled hpulled (Cursor.behind_start source)
    obtain ⟨consumed', hc', hlocated⟩ := hc.next hnext
    exact ⟨consumed', hc'.source_eq, hc'.position_eq, fun fault hfault =>
      ⟨hlocated fault hfault, fault.message_place⟩⟩

/-- A string that runs over the end of a line, a character that nothing starts with, and on the line
after it one that no symbol can hold. -/
theorem faults_located_behind_string : ∃ c c' : Cursor,
    Pulled Cursor.next (.start ['"', 'a', '\n', 'b', '"', 'é', '\n', 'x', 'é', ')'])
      [.ok ⟨.string, "a\nb"⟩, .error (.invalidToken 'é' ⟨2, 3⟩)] c ∧
    c.next = (some (.error (.invalidCharacter 'é' "x" ⟨3, 2⟩)), c') ∧ c'.unread = [')'] ∧
    ∃ consumed, ['"', 'a', '\n', 'b', '"', 'é', '\n', 'x', 'é', ')'] = consumed ++ c'.unread ∧
      c'.position = .behind consumed ∧ c'.position = ⟨3, 2⟩ ∧
      LexFault.Located [.ok ⟨.string, "a\nb"⟩, .error (.invalidToken 'é' ⟨2, 3⟩)] consumed
        (.invalidCharacter 'é' "x" ⟨3, 2⟩) := by
  have hpulled : Pulled Cursor.next (.start ['"', 'a', '\n', 'b', '"', 'é', '\n', 'x', 'é', ')'])
      [.ok ⟨.string, "a\nb"⟩, .error (.invalidToken 'é' ⟨2, 3⟩)]
      ⟨['\n', 'x', 'é', ')'], ⟨2, 3⟩, none⟩ := .cons rfl (.cons rfl .nil)
  have hnext : Cursor.next ⟨['\n', 'x', 'é', ')'], ⟨2, 3⟩, none⟩ =
      (some (.error (.invalidCharacter 'é' "x" ⟨3, 2⟩)), ⟨[')'], ⟨3, 2⟩, none⟩) := rfl
  obtain ⟨-, consumed, hsource, hposition, hlocated⟩ := faults_located hpulled hnext
  exact ⟨_, _, hpulled, hnext, rfl, consumed, hsource, hposition, rfl, (hlocated _ rfl).1⟩

end ArenaLisp
