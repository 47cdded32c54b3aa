import ArenaLisp.Proofs.Forests

/-!
# Texts that more input can complete

Whoever types a form over several lines is asked for the next line as long as something is open.
That is decided by counting parentheses over the tokens of what has been typed.  Whether more input
can make a readable text of it is another question, and a harder one: it asks for the existence of a
text.  The counting never errs on either side that matters.  It never holds back a text that can be
read, and never gives up on one that more input can complete.

* `ReadFault.Unfinished` — the faults that say that a text stops too early.
* `Stops` — texts that stop too early, told from their tokens.
* `Lexer.eventsFrom_append` — what a text has completed stays completed, whatever follows.
* `Stops.completable`, `stops_of_completable` — these are the texts that more input can complete.
* **`isOpen_spec`** — what counting parentheses tells.
-/

namespace ArenaLisp

/-- A fault that says that a text stops too early: inside a string, or with lists open. -/
def ReadFault.Unfinished : ReadFault → Prop
  | .lexical (.unterminatedString _) => True
  | .unclosed _ => True
  | _ => False

/-- **A text that stops too early.**  Nothing is wrong with its tokens, and it ends with lists open
or inside a string. -/
inductive Stops (text : List Char) : Prop where
  | lists {tokens : List Token} {k : Nat} :
      Faultless tokens → 0 < k → opens tokens = closes tokens + k →
      Lexer.events text = tokens.map .ok → Stops text
  | string {tokens : List Token} {opened : Position} :
      Faultless tokens →
      Lexer.events text = tokens.map .ok ++ [.error (.unterminatedString opened)] → Stops text

/-! ## The lexer in the middle of a text -/

namespace Lexer

/-- No single character ends a text inside a string. -/
lemma unterminated_notMem_step (c : Char) (place opened : Position) (mode : Mode) :
    .error (.unterminatedString opened) ∉ (step c place mode).1 := by
  have hgap : .error (.unterminatedString opened) ∉ (stepGap c place).1 := by
    unfold stepGap
    split_ifs <;> simp
  cases mode with
  | gap => exact hgap
  | comment =>
      simp only [step]
      split_ifs
      · exact hgap
      · simp
  | string opened collected =>
      simp only [step]
      split_ifs <;> simp
  | escape opened collected => simp [step]
  | symbol collected =>
      simp only [step]
      split_ifs <;> simp

/-- **Events are stable.**  What the lexer has emitted within a text it has emitted whatever
follows, and none of it is the end of the text inside a string. -/
lemma eventsFrom_append : ∀ (text : List Char) (place : Position) (mode : Mode),
    ∃ es place' mode', (∀ opened, .error (.unterminatedString opened) ∉ es) ∧
      ∀ rest, eventsFrom place mode (text ++ rest) = es ++ eventsFrom place' mode' rest := by
  intro text
  induction text with
  | nil => exact fun place mode => ⟨[], place, mode, by simp, fun _ => rfl⟩
  | cons c text ih =>
      intro place mode
      obtain ⟨es, place', mode', hes, hrest⟩ := ih (place.after c) (step c (place.after c) mode).2
      refine ⟨(step c (place.after c) mode).1 ++ es, place', mode', ?_, ?_⟩
      · intro opened hmem
        rcases List.mem_append.mp hmem with hmem | hmem
        · exact unterminated_notMem_step c _ opened mode hmem
        · exact hes opened hmem
      · intro rest
        rw [List.cons_append, eventsFrom_cons, hrest, List.append_assoc]

/-- How a text can end, and what a further line then adds: the text ends between tokens and the line
is read on its own, or it ends inside a string and the line goes on with that. -/
lemma events_line_cases (text : List Char) :
    ((∀ opened, .error (.unterminatedString opened) ∉ events text) ∧
      ∀ rest, ∃ place, events (text ++ '\n' :: rest) = events text ++ eventsFrom place .gap rest) ∨
    ∃ es opened collected place,
      (∀ opened, .error (.unterminatedString opened) ∉ es) ∧
      events text = es ++ [.error (.unterminatedString opened)] ∧
      ∀ rest, events (text ++ '\n' :: rest) =
        es ++ eventsFrom place (.string opened collected) rest := by
  obtain ⟨es, place, mode, hes, happend⟩ := eventsFrom_append text .start .gap
  have hline : ∀ rest, events (text ++ '\n' :: rest) = es ++ ((step '\n' (place.after '\n') mode).1
      ++ eventsFrom (place.after '\n') (step '\n' (place.after '\n') mode).2 rest) := by
    intro rest
    rw [← eventsFrom_cons]
    exact happend _
  have hend : events text = es ++ finish mode := by
    have h := happend []
    rwa [List.append_nil, eventsFrom_nil] at h
  rw [hend]
  -- at a line feed every token but a string ends as it does at the end of the text
  have hbetween : (step '\n' (place.after '\n') mode) = (finish mode, .gap) →
      (∀ opened, .error (.unterminatedString opened) ∉ es ++ finish mode) ∧
        ∀ rest, ∃ place', events (text ++ '\n' :: rest) =
          es ++ finish mode ++ eventsFrom place' .gap rest := by
    intro hstep
    refine ⟨fun opened hmem => ?_, fun rest => ⟨place.after '\n', ?_⟩⟩
    · rcases List.mem_append.mp hmem with hmem | hmem
      · exact hes opened hmem
      · refine unterminated_notMem_step '\n' (place.after '\n') opened mode ?_
        rwa [hstep]
    · rw [hline, hstep, List.append_assoc]
  cases mode with
  | gap => exact Or.inl (hbetween rfl)
  | comment => exact Or.inl (hbetween rfl)
  | symbol collected => exact Or.inl (hbetween rfl)
  | string opened collected => exact Or.inr ⟨es, opened, _, _, hes, rfl, hline⟩
  | escape opened collected => exact Or.inr ⟨es, opened, _, _, hes, rfl, hline⟩

/-- Closing parentheses, one for each list. -/
lemma eventsFrom_closing (k : Nat) : ∀ place : Position,
    eventsFrom place .gap (List.replicate k ')') =
      (List.replicate k Token.closeParen).map .ok := by
  induction k with
  | zero => exact fun _ => rfl
  | succ k ih =>
      intro place
      have hstep : step ')' (place.after ')') .gap = ([.ok .closeParen], .gap) := rfl
      rw [List.replicate_succ, eventsFrom_cons, hstep, ih, List.replicate_succ, List.map_cons]
      rfl

/-- Events are tokens up to the first fault. -/
lemma events_split : ∀ es : List Event, (∃ tokens : List Token, es = tokens.map .ok) ∨
    ∃ (tokens : List Token) (fault : LexFault) (rest : List Event),
      es = tokens.map .ok ++ .error fault :: rest := by
  intro es
  induction es with
  | nil => exact Or.inl ⟨[], rfl⟩
  | cons event es ih =>
      cases event with
      | error fault => exact Or.inr ⟨[], fault, es, rfl⟩
      | ok token =>
          rcases ih with ⟨tokens, rfl⟩ | ⟨tokens, fault, rest, rfl⟩
          · exact Or.inl ⟨token :: tokens, rfl⟩
          · exact Or.inr ⟨token :: tokens, fault, rest, rfl⟩

end Lexer

/-! ## The reader in the middle of a text -/

lemma readAll_of_events {text : List Char} {tokens : List Token}
    (h : Lexer.events text = tokens.map .ok) : readAll text = parseTokens tokens := by
  rw [readAll, h, parseTokens]

/-- Nothing is wrong with tokens that can be read. -/
lemma faultless_of_parseTokens {tokens : List Token} {nodes : List Node}
    (h : parseTokens tokens = .ok nodes) : Faultless tokens := by
  rcases faultless_or_firstOffence tokens with hf | ⟨fault, hoffence⟩
  · exact hf
  · rw [hoffence.parseTokens] at h
    cases h

/-- If nothing is wrong with the tokens before it, a malformed part of the text decides. -/
lemma Faultless.forms_error {tokens : List Token} (h : Faultless tokens) (fault : LexFault)
    (rest : List Lexer.Event) :
    firstFault (Reader.forms (tokens.map .ok ++ .error fault :: rest)) =
      .error (.lexical fault) := by
  obtain ⟨done, lists, _, hforms⟩ := Reader.formsFrom_faultless h
  rw [Reader.forms, hforms]
  exact firstFault_map_ok_append_error done _ _

/-- The first token with which anything is wrong decides, whatever comes behind it. -/
lemma FirstOffence.forms_error {tokens : List Token} {fault : ReadFault}
    (h : FirstOffence tokens fault) (rest : List Lexer.Event) :
    firstFault (Reader.forms (tokens.map .ok ++ rest)) = .error fault := by
  obtain ⟨before, token, after, rfl, hbefore, hfault⟩ := h
  obtain ⟨done, lists, hopen, hforms⟩ := Reader.formsFrom_faultless hbefore
  rcases Reader.stepToken_offence hopen token with ⟨_, hnone, _, _⟩ | ⟨fault', hfault', hstep⟩
  · rw [hfault] at hnone
    cases hnone
  · obtain rfl : fault = fault' := by simpa [hfault] using hfault'
    rw [Reader.forms, List.map_append, List.append_assoc, hforms, List.map_cons, List.cons_append,
      Reader.formsFrom_ok, hstep]
    exact firstFault_map_ok_append_error done fault _

/-- No token is to blame for a text that stops too early. -/
lemma Token.offence_not_unfinished {before : List Token} {token : Token} {fault : ReadFault}
    (h : token.offence before = some fault) : ¬fault.Unfinished := by
  have hclassify : ∀ {text : String}, classify text = .error fault → ¬fault.Unfinished := by
    intro text hc
    unfold classify at hc
    split at hc
    · cases hc
      simp [ReadFault.Unfinished]
    · split at hc <;> cases hc
      simp [ReadFault.Unfinished]
    · split at hc <;> cases hc
  unfold Token.offence at h
  split at h
  · cases h
  · cases h
  · split_ifs at h
    cases h
    simp [ReadFault.Unfinished]
  · split at h
    · cases h
    · rename_i hc
      cases h
      exact hclassify hc
  · cases h
    simp [ReadFault.Unfinished]

/-- As many lists can be closed as are open. -/
lemma Faultless.close : ∀ {k : Nat} {tokens : List Token}, Faultless tokens →
    opens tokens = closes tokens + k →
      ∃ nodes, ArenaLisp.parseTokens (tokens ++ List.replicate k .closeParen) = .ok nodes := by
  intro k
  induction k with
  | zero =>
      intro tokens h hopen
      rw [List.replicate_zero, List.append_nil]
      rcases h.parseTokens with ⟨_, hnodes⟩ | ⟨k, hk, hopen', _⟩
      · exact hnodes
      · omega
  | succ k ih =>
      intro tokens h hopen
      have hlt : ¬opens tokens ≤ closes tokens := by omega
      have hclosing : Token.closeParen.offence tokens = none := by
        simp [Token.offence, Token.closeParen, hlt]
      have hopen' : opens (tokens ++ [.closeParen]) = closes (tokens ++ [.closeParen]) + k := by
        rw [opens_snoc, closes_snoc]
        simp only [Token.closeParen, reduceCtorEq, if_true, if_false]
        omega
      obtain ⟨nodes, hnodes⟩ := ih (h.snoc hclosing) hopen'
      refine ⟨nodes, ?_⟩
      rw [List.replicate_succ, List.append_cons]
      exact hnodes

/-- Nothing is wrong with a string. -/
lemma Faultless.snoc_string {tokens : List Token} (h : Faultless tokens) (collected : List Char) :
    Faultless (tokens ++ [Lexer.stringToken collected]) :=
  h.snoc rfl

/-- Counting parentheses over tokens. -/
lemma isOpenFrom_tokens : ∀ (tokens : List Token) (depth : Int),
    isOpenFrom depth (tokens.map .ok) = decide (0 < depth + opens tokens - closes tokens) := by
  intro tokens
  induction tokens with
  | nil => simp [isOpenFrom, opens, closes]
  | cons token tokens ih =>
      intro depth
      have hopens : opens (token :: tokens) =
          opens tokens + if token.kind = .opening then 1 else 0 := by
        simp [opens, List.countP_cons]
      have hcloses : closes (token :: tokens) =
          closes tokens + if token.kind = .closing then 1 else 0 := by
        simp [closes, List.countP_cons]
      rw [List.map_cons, isOpenFrom, hopens, hcloses]
      cases hk : token.kind <;>
        simp only [ih, reduceCtorEq, if_true, if_false, decide_eq_decide] <;> push_cast <;> omega

/-! ## Texts that stop too early -/

/-- A text stops too early exactly if its fault says so. -/
lemma stops_iff_unfinished (text : List Char) :
    (∃ fault, readAll text = .error fault ∧ fault.Unfinished) ↔ Stops text := by
  constructor
  · rintro ⟨fault, hread, hfault⟩
    rcases Lexer.events_split (Lexer.events text) with ⟨tokens, hes⟩ | ⟨tokens, lex, rest, hes⟩
    · rcases faultless_or_firstOffence tokens with hf | ⟨fault', hoffence⟩
      · rw [readAll_of_events hes] at hread
        rcases hf.parseTokens with ⟨_, nodes, hnodes⟩ | ⟨k, hk, hopen, _⟩
        · rw [hnodes] at hread
          cases hread
        · exact .lists hf hk hopen hes
      · exfalso
        rw [readAll_of_events hes, hoffence.parseTokens] at hread
        cases hread
        obtain ⟨_, _, _, _, _, hsome⟩ := hoffence
        exact Token.offence_not_unfinished hsome hfault
    · rcases faultless_or_firstOffence tokens with hf | ⟨fault', hoffence⟩
      · rw [readAll, hes, hf.forms_error] at hread
        cases hread
        obtain ⟨opened, rfl⟩ : ∃ opened, lex = .unterminatedString opened := by
          cases lex with
          | unterminatedString opened => exact ⟨opened, rfl⟩
          | _ => exact absurd hfault (by simp [ReadFault.Unfinished])
        -- inside a string there is nothing behind the fault
        rcases Lexer.events_line_cases text with ⟨hnone, _⟩ | ⟨es, opened', _, _, hnone, hend, _⟩
        · exact absurd (by rw [hes]; simp) (hnone opened)
        · have hrest : rest = [] := by
            rw [hend] at hes
            rcases List.eq_nil_or_concat rest with rfl | ⟨rest, last, rfl⟩
            · rfl
            · exfalso
              have heq : es ++ [.error (.unterminatedString opened')] =
                  (tokens.map .ok ++ .error (.unterminatedString opened) :: rest) ++ [last] := by
                rw [hes]
                simp
              obtain ⟨rfl, _⟩ := List.append_inj' heq rfl
              exact hnone opened (by simp)
          rw [hrest] at hes
          exact .string hf hes
      · exfalso
        rw [readAll, hes, hoffence.forms_error] at hread
        cases hread
        obtain ⟨_, _, _, _, _, hsome⟩ := hoffence
        exact Token.offence_not_unfinished hsome hfault
  · intro hstops
    cases hstops with
    | @lists tokens k hf hk hopen hes =>
        rcases hf.parseTokens with ⟨hclosed, _⟩ | ⟨k, _, _, herror⟩
        · omega
        · exact ⟨_, (readAll_of_events hes).trans herror, trivial⟩
    | @string tokens opened hf hes =>
        refine ⟨.lexical (.unterminatedString opened), ?_, trivial⟩
        rw [readAll, hes, hf.forms_error]

/-- **A text that stops too early can be completed**: end the string, if one is open, and close the
lists. -/
lemma Stops.completable {text : List Char} (h : Stops text) :
    ∃ rest nodes, readAll (text ++ '\n' :: rest) = .ok nodes := by
  rcases Lexer.events_line_cases text with
    ⟨hnone, hline⟩ | ⟨es, opened, collected, place, hnone, hend, hline⟩
  · cases h with
    | @lists tokens k hf hk hopen hes =>
        obtain ⟨place, hline⟩ := hline (List.replicate k ')')
        obtain ⟨nodes, hnodes⟩ := hf.close hopen
        refine ⟨List.replicate k ')', nodes, (readAll_of_events ?_).trans hnodes⟩
        rw [hline, hes, Lexer.eventsFrom_closing, List.map_append]
    | @string tokens opened hf hes => exact absurd (by rw [hes]; simp) (hnone opened)
  · cases h with
    | @lists tokens k hf hk hopen hes =>
        rw [hend] at hes
        obtain ⟨_, last, _, _, hlast⟩ := List.map_eq_append_iff.mp hes.symm
        cases last <;> simp at hlast
    | @string tokens opened' hf hes =>
        rw [hend] at hes
        obtain ⟨rfl, _⟩ := List.append_inj' hes rfl
        have hstring := hf.snoc_string collected
        obtain ⟨k, hopen⟩ : ∃ k, opens (tokens ++ [Lexer.stringToken collected]) =
            closes (tokens ++ [Lexer.stringToken collected]) + k := by
          obtain ⟨_, lists, hopen, _⟩ := Reader.formsFrom_faultless hstring
          exact ⟨lists.length, hopen⟩
        obtain ⟨nodes, hnodes⟩ := hstring.close hopen
        refine ⟨'"' :: List.replicate k ')', nodes, (readAll_of_events ?_).trans hnodes⟩
        have hquote : Lexer.step '"' (place.after '"') (.string opened collected) =
            ([.ok (Lexer.stringToken collected)], .gap) := rfl
        rw [hline, Lexer.eventsFrom_cons, hquote, Lexer.eventsFrom_closing]
        simp

/-- **A text that can be completed but cannot be read stops too early.**  Whatever is wrong with its
tokens would be wrong with the completed text. -/
lemma stops_of_completable {text rest : List Char} {fault : ReadFault} {nodes : List Node}
    (hread : readAll text = .error fault) (h : readAll (text ++ '\n' :: rest) = .ok nodes) :
    Stops text := by
  obtain ⟨tokens, htokens⟩ := tokens_of_readAll h
  rw [readAll_of_events htokens] at h
  have hf := faultless_of_parseTokens h
  rcases Lexer.events_line_cases text with
    ⟨_, hline⟩ | ⟨es, opened, collected, place, _, hend, hline⟩
  · obtain ⟨place, hline⟩ := hline rest
    rw [hline] at htokens
    obtain ⟨before, after, rfl, hbefore, _⟩ := List.map_eq_append_iff.mp htokens.symm
    rw [readAll_of_events hbefore.symm] at hread
    rcases hf.of_append.parseTokens with ⟨_, nodes', hnodes⟩ | ⟨k, hk, hopen, _⟩
    · rw [hnodes] at hread
      cases hread
    · exact .lists hf.of_append hk hopen hbefore.symm
  · rw [hline rest] at htokens
    obtain ⟨before, after, rfl, hbefore, _⟩ := List.map_eq_append_iff.mp htokens.symm
    exact .string hf.of_append (by rw [hend, hbefore])

lemma Stops.isOpen {text : List Char} (h : Stops text) : isOpen text = true := by
  unfold ArenaLisp.isOpen
  cases h with
  | @lists tokens k hf hk hopen hes =>
      rw [hes, isOpenFrom_tokens, hopen]
      simp only [decide_eq_true_eq]
      omega
  | @string tokens opened hf hes =>
      rw [hes]
      exact isOpenFrom_unterminated opened tokens 0

/-- **What counting parentheses tells.**  A text that can be read is never held back.  The fault of
a text says that it stops too early if and only if it cannot be read, but can be once some text is
added on further lines; and then more lines are asked for. -/
theorem isOpen_spec (source : String) :
    (∀ nodes, parse source = .ok nodes → isOpen source.toList = false) ∧
    ((∃ fault, parse source = .error fault ∧ fault.Unfinished) ↔
      (∃ fault, parse source = .error fault) ∧
        ∃ rest nodes, parse (source ++ "\n" ++ rest) = .ok nodes) ∧
    (∀ fault, parse source = .error fault → fault.Unfinished → isOpen source.toList = true) := by
  have hparse : parse source = readAll source.toList := rfl
  have hline : ∀ rest : String,
      parse (source ++ "\n" ++ rest) = readAll (source.toList ++ '\n' :: rest.toList) := by
    intro rest
    show readAll (source ++ "\n" ++ rest).toList = _
    simp
  refine ⟨fun nodes h => not_open_of_readAll h, ?_, ?_⟩
  · rw [hparse, stops_iff_unfinished]
    constructor
    · intro hstops
      obtain ⟨fault, hfault, _⟩ := (stops_iff_unfinished _).mpr hstops
      obtain ⟨rest, nodes, hnodes⟩ := hstops.completable
      refine ⟨⟨fault, hfault⟩, String.ofList rest, nodes, ?_⟩
      rw [hline, String.toList_ofList, hnodes]
    · rintro ⟨⟨fault, hfault⟩, rest, nodes, hnodes⟩
      rw [hline] at hnodes
      exact stops_of_completable hfault hnodes
  · intro fault hfault hunfinished
    exact ((stops_iff_unfinished _).mp ⟨fault, hfault, hunfinished⟩).isOpen

end ArenaLisp
