import ArenaLisp.Proofs.Cutting
import Mathlib.Data.List.Induction

/-!
# Balanced tokens and the forests they stand for

Tokens stand for nodes in the way that parentheses suggest: a list is what stands between an opening
parenthesis and the closing one that matches it.  The reader does not look for matching parentheses.
It keeps the lists that are still open and adds each node to the innermost one.  What it finds is
nevertheless the only forest that the tokens can stand for, and if there is none, it reports the
first token that is to blame, or how many lists were never closed.

* `Flattens` — a forest and the tokens it is flattened to.
* `Reader.formsFrom_flattens`, `Reader.completes_of_formsFrom` — the reader and the forest.
* `Token.offence`, `Faultless`, `Balanced` — what is wrong with tokens, and when nothing is.
* `Reader.formsFrom_faultless` — the reader behind tokens with which nothing is wrong.
* **`parseTokens_spec`** — the reader accepts exactly the balanced tokens.
-/

namespace ArenaLisp

/-! ## Forests -/

/-- A token that stands for a node on its own. -/
inductive Token.Names : Token → Node → Prop where
  | string {token : Token} :
      token.kind = .string → Names token (.literal (.string token.text))
  | symbol {token : Token} {node : Node} :
      token.kind = .symbol → classify token.text = .ok node → Names token node

/-- **A forest and its tokens**: a list is flattened to an opening parenthesis, its items and a
closing parenthesis.  What texts the parentheses carry is of no account. -/
inductive Flattens : List Node → List Token → Prop where
  | nil : Flattens [] []
  | atom {token : Token} {node : Node} {nodes : List Node} {tokens : List Token} :
      token.Names node → Flattens nodes tokens → Flattens (node :: nodes) (token :: tokens)
  | list {opening closing : Token} {items nodes : List Node} {inner tokens : List Token} :
      opening.kind = .opening → Flattens items inner → closing.kind = .closing →
      Flattens nodes tokens →
      Flattens (.list items :: nodes) (opening :: (inner ++ closing :: tokens))

lemma firstFault_append {ε α : Type} : ∀ {front back : List (Except ε α)} {all : List α},
    firstFault (front ++ back) = .ok all →
      ∃ done others, front = done.map .ok ∧ firstFault back = .ok others ∧
        all = done ++ others := by
  intro front
  induction front with
  | nil => exact fun h => ⟨[], _, rfl, h, rfl⟩
  | cons outcome front ih =>
      intro back all h
      cases outcome with
      | error fault => cases h
      | ok a =>
          obtain ⟨rest, hrest, rfl⟩ := firstFault_cons_ok h
          obtain ⟨done, others, rfl, hothers, rfl⟩ := ih hrest
          exact ⟨a :: done, others, rfl, hothers, rfl⟩

lemma firstFault_map_ok_append_error {ε α : Type} (done : List α) (fault : ε)
    (rest : List (Except ε α)) :
    firstFault (done.map .ok ++ .error fault :: rest) = .error fault := by
  induction done with
  | nil => rfl
  | cons a done ih =>
      rw [List.map_cons, List.cons_append, firstFault, ih]
      rfl

namespace Reader

lemma formsFrom_ok (token : Token) (lists : Open) (es : List Lexer.Event) :
    formsFrom lists (.ok token :: es) =
      (stepToken token lists).1.toList ++ formsFrom (stepToken token lists).2 es := rfl

lemma stepToken_opening {token : Token} (h : token.kind = .opening) (lists : Open) :
    stepToken token lists = (none, [] :: lists) := by
  simp [stepToken, h]

lemma stepToken_closing {token : Token} (h : token.kind = .closing) (items : List Node)
    (outer : Open) : stepToken token (items :: outer) = place (.list items.reverse) outer := by
  simp [stepToken, h]

lemma stepToken_names {token : Token} {node : Node} (h : token.Names node) (lists : Open) :
    stepToken token lists = place node lists := by
  cases h with
  | string hk => simp [stepToken, hk]
  | symbol hk hc => simp [stepToken, hk, hc]

/-- The tokens of a forest put its nodes into the innermost open list; with no list open they are
forms.  The induction is on the forest, whatever lists are open around it. -/
lemma formsFrom_flattens {nodes : List Node} {tokens : List Token} (h : Flattens nodes tokens) :
    (∀ es, formsFrom [] (tokens.map .ok ++ es) = nodes.map .ok ++ formsFrom [] es) ∧
    (∀ items outer es, formsFrom (items :: outer) (tokens.map .ok ++ es) =
      formsFrom ((nodes.reverse ++ items) :: outer) es) := by
  induction h with
  | nil => exact ⟨fun _ => rfl, fun _ _ _ => rfl⟩
  | atom ht _ ih =>
      constructor
      · intro es
        rw [List.map_cons, List.cons_append, formsFrom_ok, stepToken_names ht, place, ih.1]
        rfl
      · intro items outer es
        rw [List.map_cons, List.cons_append, formsFrom_ok, stepToken_names ht, place, ih.2]
        simp
  | @list opening closing items' nodes inner tokens ho _ hc _ ihi ih =>
      -- the tokens in between fill a list of their own, which is then placed
      have hlist : ∀ lists es, formsFrom lists
          ((opening :: (inner ++ closing :: tokens)).map .ok ++ es) =
          (place (.list items') lists).1.toList ++
            formsFrom (place (.list items') lists).2 (tokens.map .ok ++ es) := by
        intro lists es
        rw [List.map_cons, List.cons_append, formsFrom_ok, stepToken_opening ho, List.map_append,
          List.append_assoc, ihi.2, List.map_cons, List.cons_append, formsFrom_ok,
          stepToken_closing hc]
        simp
      constructor
      · intro es
        rw [hlist, place, ih.1]
        rfl
      · intro items outer es
        rw [hlist, place, ih.2]
        simp

/-- What must still come when some lists are open and some nodes have just been completed: the rest
of the innermost list and a closing parenthesis, then the same for the list around it, and at last
further forms. -/
def Completes : Open → List Node → List Token → List Node → Prop
  | [], first, tokens, nodes => ∃ others, nodes = first ++ others ∧ Flattens others tokens
  | items :: outer, first, tokens, nodes =>
    ∃ (rest : List Node) (inner : List Token) (closing : Token) (after : List Token),
      tokens = inner ++ closing :: after ∧ Flattens rest inner ∧ closing.kind = .closing ∧
        Completes outer [.list (items.reverse ++ (first ++ rest))] after nodes

/-- A node that has been completed may as well be placed. -/
lemma completes_place {node : Node} {lists : Open} {tokens : List Token} {done others : List Node}
    (hdone : (place node lists).1.toList = done.map .ok)
    (h : Completes (place node lists).2 [] tokens others) :
    Completes lists [node] tokens (done ++ others) := by
  cases lists with
  | nil =>
      obtain rfl : done = [node] := by
        cases done with
        | nil => simp [place] at hdone
        | cons n done => simpa [place, eq_comm] using hdone
      obtain ⟨rest, heq, hrest⟩ := h
      exact ⟨rest, by rw [heq, List.nil_append], hrest⟩
  | cons items outer =>
      obtain rfl : done = [] := by simpa [place, eq_comm] using hdone
      obtain ⟨rest, inner, closing, after, rfl, hrest, hc, h⟩ := h
      refine ⟨rest, inner, closing, after, rfl, hrest, hc, ?_⟩
      simpa using h

/-- The tokens of one more node in front. -/
lemma completes_cons {node : Node} (piece : List Token)
    (hpiece : ∀ {nodes tokens}, Flattens nodes tokens → Flattens (node :: nodes) (piece ++ tokens))
    {lists : Open} {tokens : List Token} {nodes : List Node}
    (h : Completes lists [node] tokens nodes) : Completes lists [] (piece ++ tokens) nodes := by
  cases lists with
  | nil =>
      obtain ⟨others, rfl, hothers⟩ := h
      exact ⟨node :: others, rfl, hpiece hothers⟩
  | cons items outer =>
      obtain ⟨rest, inner, closing, after, rfl, hrest, hc, h⟩ := h
      exact ⟨node :: rest, piece ++ inner, closing, after, by simp, hpiece hrest, hc, h⟩

/-- **One token.**  What must come before it follows from what must come behind it. -/
lemma completes_stepToken {token : Token} {lists : Open} {tokens : List Token}
    {done others : List Node} (hdone : (stepToken token lists).1.toList = done.map .ok)
    (h : Completes (stepToken token lists).2 [] tokens others) :
    Completes lists [] (token :: tokens) (done ++ others) := by
  have hatom : ∀ node, token.Names node →
      Completes lists [] (token :: tokens) (done ++ others) := by
    intro node hn
    rw [stepToken_names hn] at hdone h
    exact completes_cons [token] (.atom hn) (completes_place hdone h)
  cases hk : token.kind with
  | opening =>
      rw [stepToken_opening hk] at hdone h
      obtain rfl : done = [] := by simpa [eq_comm] using hdone
      obtain ⟨rest, inner, closing, after, rfl, hrest, hc, h⟩ := h
      have hlist := completes_cons (token :: (inner ++ [closing]))
        (fun hf => by simpa using Flattens.list hk hrest hc hf) h
      simpa using hlist
  | closing =>
      cases lists with
      | nil =>
          simp only [stepToken, hk, abandon, Option.toList_some] at hdone
          cases done <;> simp at hdone
      | cons items outer =>
          rw [stepToken_closing hk] at hdone h
          exact ⟨[], [], token, tokens, rfl, .nil, hk, by simpa using completes_place hdone h⟩
  | string => exact hatom _ (.string hk)
  | symbol =>
      cases hc : classify token.text with
      | ok node => exact hatom node (.symbol hk hc)
      | error fault =>
          simp only [stepToken, hk, hc, abandon, Option.toList_some] at hdone
          cases done <;> simp at hdone
  | bare =>
      simp only [stepToken, hk, abandon, Option.toList_some] at hdone
      cases done <;> simp at hdone

/-- **The run.**  Tokens that are read without a fault stand for the nodes that come of them. -/
theorem completes_of_formsFrom : ∀ {tokens : List Token} {lists : Open} {nodes : List Node},
    firstFault (formsFrom lists (tokens.map .ok)) = .ok nodes →
      Completes lists [] tokens nodes := by
  intro tokens
  induction tokens with
  | nil =>
      intro lists nodes h
      cases lists with
      | nil => exact ⟨[], (Except.ok.inj h).symm, .nil⟩
      | cons items outer => cases h
  | cons token tokens ih =>
      intro lists nodes h
      rw [List.map_cons, formsFrom_ok] at h
      obtain ⟨done, others, hdone, hothers, rfl⟩ := firstFault_append h
      exact completes_stepToken hdone (ih hothers)

end Reader

/-- The only forest for which some tokens can stand is the one that is read. -/
theorem parseTokens_eq_ok_iff (tokens : List Token) (nodes : List Node) :
    parseTokens tokens = .ok nodes ↔ Flattens nodes tokens := by
  constructor
  · intro h
    obtain ⟨others, rfl, hothers⟩ := Reader.completes_of_formsFrom h
    exact hothers
  · intro h
    have hforms := (Reader.formsFrom_flattens h).1 []
    rw [List.append_nil] at hforms
    rw [parseTokens, Reader.forms, hforms]
    simpa using Reader.firstFault_map_ok_append
      (show firstFault (Reader.formsFrom [] []) = .ok [] from rfl) nodes

/-! ## What is wrong with tokens -/

/-- How many lists some tokens open. -/
def opens (tokens : List Token) : Nat := tokens.countP (·.kind = .opening)

/-- How many lists some tokens close. -/
def closes (tokens : List Token) : Nat := tokens.countP (·.kind = .closing)

@[simp] lemma opens_snoc (tokens : List Token) (token : Token) :
    opens (tokens ++ [token]) = opens tokens + if token.kind = .opening then 1 else 0 := by
  simp [opens, List.countP_append, List.countP_singleton]

@[simp] lemma closes_snoc (tokens : List Token) (token : Token) :
    closes (tokens ++ [token]) = closes tokens + if token.kind = .closing then 1 else 0 := by
  simp [closes, List.countP_append, List.countP_singleton]

/-- What is wrong with a token, given those before it: it closes more lists than were opened, or it
is a literal that is rejected, or it has no meaning at all. -/
def Token.offence (before : List Token) (token : Token) : Option ReadFault :=
  match token.kind with
  | .opening | .string => none
  | .closing => if opens before ≤ closes before then some .closedWithoutList else none
  | .symbol =>
    match classify token.text with
    | .ok _ => none
    | .error fault => some fault
  | .bare => some (.unexpectedToken token)

/-- Nothing is wrong with any of some tokens. -/
def Faultless (tokens : List Token) : Prop :=
  ∀ before token after, tokens = before ++ token :: after → token.offence before = none

/-- The first of some tokens with which anything is wrong, by its fault. -/
def FirstOffence (tokens : List Token) (fault : ReadFault) : Prop :=
  ∃ before token after, tokens = before ++ token :: after ∧ Faultless before ∧
    token.offence before = some fault

/-- **Balanced tokens**: each stands for something, no list is closed that was not opened before,
and all are closed in the end. -/
structure Balanced (tokens : List Token) : Prop where
  meant : ∀ token ∈ tokens, token.kind ≠ .bare
  classified : ∀ token ∈ tokens, token.kind = .symbol → ∀ fault, classify token.text ≠ .error fault
  nested : ∀ before after, tokens = before ++ after → closes before ≤ opens before
  closed : opens tokens = closes tokens


namespace Faultless

lemma nil : Faultless [] := by
  intro before token after h
  simp at h

lemma of_append {tokens tokens' : List Token} (h : Faultless (tokens ++ tokens')) :
    Faultless tokens := by
  rintro before token after rfl
  exact h before token (after ++ tokens') (by simp)

lemma snoc {tokens : List Token} {token : Token} (h : Faultless tokens)
    (ht : token.offence tokens = none) : Faultless (tokens ++ [token]) := by
  intro before token' after heq
  rcases List.eq_nil_or_concat after with rfl | ⟨after, last, rfl⟩
  · obtain ⟨rfl, rfl⟩ : tokens = before ∧ token = token' := by simpa using heq
    exact ht
  · have heq' : tokens ++ [token] = (before ++ token' :: after) ++ [last] := by
      rw [heq]
      simp
    obtain ⟨rfl, _⟩ := List.append_inj' heq' rfl
    exact h before token' after rfl

lemma last {tokens : List Token} {token : Token} (h : Faultless (tokens ++ [token])) :
    token.offence tokens = none :=
  h tokens token [] rfl

end Faultless

lemma faultless_or_firstOffence (tokens : List Token) :
    Faultless tokens ∨ ∃ fault, FirstOffence tokens fault := by
  induction tokens using List.reverseRecOn with
  | nil => exact Or.inl .nil
  | append_singleton tokens token ih =>
      rcases ih with h | ⟨fault, before, token', after, rfl, hbefore, hfault⟩
      · cases ht : token.offence tokens with
        | none => exact Or.inl (h.snoc ht)
        | some fault => exact Or.inr ⟨fault, tokens, token, [], rfl, h, ht⟩
      · exact Or.inr ⟨fault, before, token', after ++ [token], by simp, hbefore, hfault⟩

/-! ## The reader and what is wrong -/

namespace Reader

lemma toList_place (node : Node) (lists : Open) :
    ∃ done : List Node, (place node lists).1.toList = done.map .ok := by
  cases lists with
  | nil => exact ⟨[node], rfl⟩
  | cons items outer => exact ⟨[], rfl⟩

/-- **One token.**  The reader reports what is wrong with it, if anything is.  This depends on the
reader having as many lists open as were opened and not closed. -/
lemma stepToken_offence {before : List Token} {lists : Open}
    (hopen : opens before = closes before + lists.length) (token : Token) :
    (∃ done : List Node, token.offence before = none ∧
      (stepToken token lists).1.toList = done.map .ok ∧
      opens (before ++ [token]) = closes (before ++ [token]) + (stepToken token lists).2.length) ∨
    ∃ fault, token.offence before = some fault ∧ stepToken token lists = abandon fault := by
  simp only [opens_snoc, closes_snoc]
  cases hk : token.kind with
  | opening =>
      refine Or.inl ⟨[], by simp [Token.offence, hk], by simp [stepToken, hk], ?_⟩
      simp only [stepToken, hk, List.length_cons, ↓reduceIte, reduceCtorEq]
      omega
  | closing =>
      cases lists with
      | nil =>
          have hle : opens before ≤ closes before := by simp at hopen; omega
          exact Or.inr ⟨.closedWithoutList, by simp [Token.offence, hk, hle],
            by simp [stepToken, hk]⟩
      | cons items outer =>
          have hlt : ¬opens before ≤ closes before := by simp at hopen; omega
          obtain ⟨done, hdone⟩ := toList_place (.list items.reverse) outer
          rw [stepToken_closing hk]
          refine Or.inl ⟨done, by simp [Token.offence, hk, hlt], hdone, ?_⟩
          simp at hopen ⊢
          omega
  | string =>
      obtain ⟨done, hdone⟩ := toList_place (.literal (.string token.text)) lists
      rw [stepToken_names (.string hk)]
      exact Or.inl ⟨done, by simp [Token.offence, hk], hdone, by simpa using hopen⟩
  | symbol =>
      cases hc : classify token.text with
      | ok node =>
          obtain ⟨done, hdone⟩ := toList_place node lists
          rw [stepToken_names (.symbol hk hc)]
          exact Or.inl ⟨done, by simp [Token.offence, hk, hc], hdone, by simpa using hopen⟩
      | error fault =>
          exact Or.inr ⟨fault, by simp [Token.offence, hk, hc], by simp [stepToken, hk, hc]⟩
  | bare =>
      exact Or.inr ⟨.unexpectedToken token, by simp [Token.offence, hk], by simp [stepToken, hk]⟩

/-- **The run.**  Behind tokens with which nothing is wrong the reader has completed some forms and
has as many lists open as were opened and not closed. -/
lemma formsFrom_faultless {tokens : List Token} (h : Faultless tokens) :
    ∃ (done : List Node) (lists : Open), opens tokens = closes tokens + lists.length ∧
      ∀ es, formsFrom [] (tokens.map .ok ++ es) = done.map .ok ++ formsFrom lists es := by
  induction tokens using List.reverseRecOn with
  | nil => exact ⟨[], [], rfl, fun _ => rfl⟩
  | append_singleton tokens token ih =>
      obtain ⟨done, lists, hopen, hforms⟩ := ih h.of_append
      rcases stepToken_offence hopen token with ⟨new, _, hnew, hopen'⟩ | ⟨fault, hfault, _⟩
      · refine ⟨done ++ new, (stepToken token lists).2, hopen', ?_⟩
        intro es
        rw [List.map_append, List.append_assoc, hforms, List.map_singleton, List.singleton_append,
          formsFrom_ok, hnew, List.map_append, List.append_assoc]
      · rw [h.last] at hfault
        cases hfault

end Reader

/-- The first token with which anything is wrong decides. -/
lemma FirstOffence.parseTokens {tokens : List Token} {fault : ReadFault}
    (h : FirstOffence tokens fault) : parseTokens tokens = .error fault := by
  obtain ⟨before, token, after, rfl, hbefore, hfault⟩ := h
  obtain ⟨done, lists, hopen, hforms⟩ := Reader.formsFrom_faultless hbefore
  rcases Reader.stepToken_offence hopen token with ⟨_, hnone, _, _⟩ | ⟨fault', hfault', hstep⟩
  · rw [hfault] at hnone
    cases hnone
  · obtain rfl : fault = fault' := by simpa [hfault] using hfault'
    rw [ArenaLisp.parseTokens, Reader.forms, List.map_append, hforms, List.map_cons,
      Reader.formsFrom_ok, hstep]
    exact firstFault_map_ok_append_error done fault _

lemma FirstOffence.not_faultless {tokens : List Token} {fault : ReadFault}
    (h : FirstOffence tokens fault) : ¬Faultless tokens := by
  obtain ⟨before, token, after, rfl, _, hfault⟩ := h
  intro hall
  rw [hall before token after rfl] at hfault
  cases hfault

/-- If nothing is wrong with any token, the lists that are open at the end decide. -/
lemma Faultless.parseTokens {tokens : List Token} (h : Faultless tokens) :
    (opens tokens = closes tokens ∧ ∃ nodes, parseTokens tokens = .ok nodes) ∨
    ∃ k, 0 < k ∧ opens tokens = closes tokens + k ∧
      ArenaLisp.parseTokens tokens = .error (.unclosed k) := by
  obtain ⟨done, lists, hopen, hforms⟩ := Reader.formsFrom_faultless h
  have hforms := hforms []
  rw [List.append_nil] at hforms
  rw [ArenaLisp.parseTokens, Reader.forms, hforms]
  cases lists with
  | nil =>
      refine Or.inl ⟨hopen, done, ?_⟩
      simpa using Reader.firstFault_map_ok_append
        (show firstFault (Reader.formsFrom [] []) = .ok [] from rfl) done
  | cons items outer =>
      refine Or.inr ⟨(items :: outer).length, by simp, hopen, ?_⟩
      exact firstFault_map_ok_append_error done _ []

lemma balanced_iff (tokens : List Token) :
    Balanced tokens ↔ Faultless tokens ∧ opens tokens = closes tokens := by
  constructor
  · intro h
    refine ⟨?_, h.closed⟩
    rintro before token after rfl
    have hmem : token ∈ before ++ token :: after := by simp
    cases hk : token.kind with
    | opening => simp [Token.offence, hk]
    | closing =>
        have hle := h.nested (before ++ [token]) after (by simp)
        simp only [opens_snoc, closes_snoc, hk] at hle
        have hlt : ¬opens before ≤ closes before := by simp at hle; omega
        simp [Token.offence, hk, hlt]
    | string => simp [Token.offence, hk]
    | symbol =>
        cases hc : classify token.text with
        | ok node => simp [Token.offence, hk, hc]
        | error fault => exact absurd hc (h.classified token hmem hk fault)
    | bare => exact absurd hk (h.meant token hmem)
  · rintro ⟨h, hclosed⟩
    refine ⟨?_, ?_, ?_, hclosed⟩
    · intro token hmem hk
      obtain ⟨before, after, rfl⟩ := List.append_of_mem hmem
      have hnone := h before token after rfl
      simp [Token.offence, hk] at hnone
    · intro token hmem hk fault hc
      obtain ⟨before, after, rfl⟩ := List.append_of_mem hmem
      have hnone := h before token after rfl
      simp [Token.offence, hk, hc] at hnone
    · rintro before after rfl
      obtain ⟨_, lists, hopen, _⟩ := Reader.formsFrom_faultless h.of_append
      omega

/-- **The reader accepts exactly the balanced tokens.**  It finds a forest if and only if they are
balanced; the forest is then the only one that is flattened to them.  Otherwise the fault is that of
the first token with which anything is wrong, and if there is none such, it is the number of lists
that are open at the end. -/
theorem parseTokens_spec (tokens : List Token) :
    ((∃ nodes, parseTokens tokens = .ok nodes) ↔ Balanced tokens) ∧
    (∀ nodes, parseTokens tokens = .ok nodes ↔ Flattens nodes tokens) ∧
    (∀ fault, parseTokens tokens = .error fault ↔
      FirstOffence tokens fault ∨
        (Faultless tokens ∧
          ∃ k, 0 < k ∧ opens tokens = closes tokens + k ∧ fault = .unclosed k)) := by
  refine ⟨?_, parseTokens_eq_ok_iff tokens, ?_⟩
  · rw [balanced_iff]
    rcases faultless_or_firstOffence tokens with h | ⟨fault, h⟩
    · rcases h.parseTokens with ⟨hclosed, hnodes⟩ | ⟨k, hk, hopen, herror⟩
      · exact iff_of_true hnodes ⟨h, hclosed⟩
      · refine iff_of_false ?_ (fun hb => by omega)
        rintro ⟨nodes, hnodes⟩
        rw [herror] at hnodes
        cases hnodes
    · refine iff_of_false ?_ (fun hb => h.not_faultless hb.1)
      rintro ⟨nodes, hnodes⟩
      rw [h.parseTokens] at hnodes
      cases hnodes
  · intro fault
    constructor
    · intro hfault
      rcases faultless_or_firstOffence tokens with h | ⟨fault', h⟩
      · rcases h.parseTokens with ⟨_, nodes, hnodes⟩ | ⟨k, hk, hopen, herror⟩
        · rw [hnodes] at hfault
          cases hfault
        · rw [herror] at hfault
          exact Or.inr ⟨h, k, hk, hopen, (Except.error.inj hfault).symm⟩
      · rw [h.parseTokens] at hfault
        obtain rfl := Except.error.inj hfault
        exact Or.inl h
    · rintro (h | ⟨h, k, hk, hopen, rfl⟩)
      · exact h.parseTokens
      · rcases h.parseTokens with ⟨hclosed, _⟩ | ⟨k', _, hopen', herror⟩
        · omega
        · obtain rfl : k = k' := by omega
          exact herror

end ArenaLisp
