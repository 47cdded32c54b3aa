import ArenaLisp.Proofs.Forests
import ArenaLisp.Proofs.Lexemes
import ArenaLisp.Proofs.Numerals

/-!
# Rendering what was read

A node that was read can be rendered and read again.  Lists, strings, integers and symbols come back
as they were: a symbol that was read spells itself, and a rendered string has its quotes and
backslashes escaped.  Only floats need not come back.

The argument goes through the tokens.  `Node.tokens` are those that a rendered node spells, and
`Node.again` is the only node that these can stand for.

* `Node.Readable` — the nodes that can have been read, with `readable_of_parse`.
* `sentence_render` — rendering spells the tokens of a node.
* `flattens_tokens` — the tokens of a node stand for what it comes back as.
* `sameAll_again` — what comes back is the same but for floats that are not positional.
* **`parse_render_iff`** — rendering undoes reading up to such floats.
-/

namespace ArenaLisp

open Decimal Lexer

/-! ## Nodes that were read -/

mutual

/-- The floats of a node. -/
def Node.floats : Node → List Float
  | .list items => Node.floatsAll items
  | .symbol _ => []
  | .literal (.float x) => [x]
  | .literal _ => []

/-- The floats of several nodes. -/
def Node.floatsAll : List Node → List Float
  | [] => []
  | node :: rest => node.floats ++ Node.floatsAll rest

end

mutual

/-- A node that can have been read: its symbols spell themselves and stand for no number, its
integers fit a machine word, and its floats are numbers. -/
def Node.Readable : Node → Prop
  | .list items => Node.ReadableAll items
  | .symbol name => Lexeme name.toList ⟨.symbol, name⟩ ∧ classify name = .ok (.symbol name)
  | .literal (.string _) => True
  | .literal (.integer n) => inWord n = true
  | .literal (.float x) => x.isNaN = false

/-- Several such nodes. -/
def Node.ReadableAll : List Node → Prop
  | [] => True
  | node :: rest => node.Readable ∧ Node.ReadableAll rest

end

/-- A symbol token has the text that spells it. -/
lemma Lexeme.text {lexeme : List Char} {token : Token} (h : Lexeme lexeme token)
    (hk : token.kind = .symbol) : Lexeme token.text.toList ⟨.symbol, token.text⟩ := by
  cases h with
  | opening => cases hk
  | closing => cases hk
  | string _ => cases hk
  | symbol hc hs =>
      simp only [String.toList_ofList]
      exact .symbol hc hs

lemma Token.Names.readable {token : Token} {node : Node} (h : token.Names node)
    (hl : ∃ lexeme, Lexeme lexeme token) : node.Readable := by
  cases h with
  | string _ => trivial
  | symbol hk hc =>
      obtain ⟨lexeme, hl⟩ := hl
      rcases classify_cases hc with ⟨n, hn, rfl⟩ | ⟨x, hx, rfl⟩ | rfl
      · exact hn
      · exact hx
      · exact ⟨hl.text hk, hc⟩

lemma Flattens.readable {nodes : List Node} {tokens : List Token} (h : Flattens nodes tokens) :
    (∀ token ∈ tokens, ∃ lexeme, Lexeme lexeme token) → Node.ReadableAll nodes := by
  induction h with
  | nil => exact fun _ => trivial
  | atom ht _ ih =>
      intro hl
      exact ⟨ht.readable (hl _ (by simp)), ih fun token hmem => hl token (by simp [hmem])⟩
  | list _ _ _ _ ihi ih =>
      intro hl
      exact ⟨ihi fun token hmem => hl token (by simp [hmem]),
        ih fun token hmem => hl token (by simp [hmem])⟩

lemma Spelled.lexeme_of_mem {text : List Char} {tokens : List Token} (h : Spelled text tokens) :
    ∀ token ∈ tokens, ∃ lexeme, Lexeme lexeme token := by
  induction h with
  | nil => simp
  | cons hl _ _ _ ih => exact List.forall_mem_cons.mpr ⟨⟨_, hl⟩, ih⟩

/-- What was read can have been read. -/
lemma readable_of_parse {source : String} {nodes : List Node} (h : parse source = .ok nodes) :
    Node.ReadableAll nodes := by
  obtain ⟨tokens, htokens⟩ := tokens_of_readAll h
  have hsentence : Sentence source.toList tokens :=
    show Continues .gap source.toList tokens from continues_of_eventsFrom htokens
  obtain ⟨_, _, _, _, hspelled⟩ := hsentence
  have hflattens : Flattens nodes tokens := by
    rw [← parseTokens_eq_ok_iff, parseTokens, ← htokens]
    exact h
  exact hflattens.readable hspelled.lexeme_of_mem

/-! ## The tokens of a node -/

/-- The token that a rendered literal spells. -/
def Literal.token : Literal → Token
  | .string text => ⟨.string, text⟩
  | .integer n => ⟨.symbol, integerText n⟩
  | .float x => ⟨.symbol, floatText x⟩

mutual

/-- The tokens that a rendered node spells. -/
def Node.tokens : Node → List Token
  | .list items => .openParen :: (Node.tokensAll items ++ [.closeParen])
  | .symbol name => [⟨.symbol, name⟩]
  | .literal value => [value.token]

/-- The tokens that several rendered nodes spell. -/
def Node.tokensAll : List Node → List Token
  | [] => []
  | node :: rest => node.tokens ++ Node.tokensAll rest

end

lemma escaped_escaped (text : List Char) : Escaped (Literal.escaped text) text := by
  induction text with
  | nil => exact .nil
  | cons c text ih =>
      unfold Literal.escaped
      split_ifs with h
      · exact .escape ih
      · rw [not_or] at h
        exact .plain h.1 h.2 ih

lemma isSymbolChar_of_isFloatChar {c : Char} (h : isFloatChar c = true) :
    isSymbolChar c = true ∧ c ≠ '#' := by
  simp only [isFloatChar, Bool.or_eq_true, decide_eq_true_eq] at h
  rcases h with h | h
  · have hrange : 48 ≤ c.toNat ∧ c.toNat ≤ 57 := Char.isDigit_iff_toNat.mp h
    have hne : ∀ d : Char, d.toNat < 48 → c ≠ d := by
      rintro d hd rfl
      omega
    refine ⟨?_, hne '#' (by decide)⟩
    simp [isSymbolChar, hne '(' (by decide), hne ')' (by decide), hne '"' (by decide)]
    omega
  · have hall : ∀ d ∈ "+-.aefin".toList, (isSymbolChar d && d != '#') = true :=
      List.all_eq_true.mp (by decide)
    simpa using hall c h

/-- A text of the characters of numbers is spelled as it stands. -/
lemma lexeme_of_isFloatChar {text : String} (hne : text.toList ≠ [])
    (h : ∀ c ∈ text.toList, isFloatChar c = true) : Lexeme text.toList ⟨.symbol, text⟩ := by
  cases htext : text.toList with
  | nil => exact absurd htext hne
  | cons c cs =>
      rw [htext] at h
      have hl : Lexeme (c :: cs) ⟨.symbol, String.ofList (c :: cs)⟩ :=
        .symbol (isSymbolChar_of_isFloatChar (h c (by simp))).2
          fun d hd => (isSymbolChar_of_isFloatChar (h d hd)).1
      rwa [← htext, String.ofList_toList, htext] at hl

lemma isFloatChar_integerText (n : Int) :
    (integerText n).toList ≠ [] ∧ ∀ c ∈ (integerText n).toList, isFloatChar c = true := by
  have hne : digitsOf n.natAbs ≠ [] := Nat.toDigits_ne_nil
  have hdigits : ∀ c ∈ digitsOf n.natAbs, isFloatChar c = true :=
    fun c hc => isFloatChar_of_isDigit (isDigit_of_mem_digitsOf hc)
  rcases integerText_cases n with ⟨_, htext⟩ | ⟨_, htext⟩
  · rw [htext]
    exact ⟨hne, hdigits⟩
  · rw [htext]
    exact ⟨by simp, List.forall_mem_cons.mpr ⟨rfl, hdigits⟩⟩

lemma lexeme_render (value : Literal) : Lexeme value.render.toList value.token := by
  cases value with
  | string text =>
      have hl := Lexeme.string (escaped_escaped text.toList)
      rw [String.ofList_toList] at hl
      rw [Literal.render, String.toList_ofList]
      exact hl
  | integer n =>
      obtain ⟨hne, hchars⟩ := isFloatChar_integerText n
      exact lexeme_of_isFloatChar hne hchars
  | float x =>
      have hform := floatForm_floatText x
      obtain ⟨c, hc, _⟩ := hform.exists_mem
      exact lexeme_of_isFloatChar (List.ne_nil_of_mem hc) hform.isFloatChar

/-! ## Rendering spells the tokens -/

mutual

/-- A rendered node spells its tokens, in front of any text that ends a symbol. -/
lemma Node.sentence_render {rest : List Char} {tokens : List Token} (hends : EndsSymbol rest)
    (h : Sentence rest tokens) : ∀ node : Node, node.Readable →
      Sentence (node.render.toList ++ rest) (node.tokens ++ tokens)
  | .list items, hr => by
      have hclose : Sentence (')' :: rest) (.closeParen :: tokens) :=
        Sentence.lexeme .closing (fun hk => by cases hk) h
      have hends' : EndsSymbol (')' :: rest) := Or.inr (Or.inl rfl)
      have hitems := Node.sentence_renderAll hends' hclose items hr
      have hopen := Sentence.lexeme .opening (fun hk => by cases hk) hitems
      simpa [Node.render, Node.tokens] using hopen
  | .symbol name, hr => Sentence.lexeme hr.1 (fun _ => hends) h
  | .literal value, _ => Sentence.lexeme (lexeme_render value) (fun _ => hends) h

/-- So do several. -/
lemma Node.sentence_renderAll {rest : List Char} {tokens : List Token} (hends : EndsSymbol rest)
    (h : Sentence rest tokens) : ∀ nodes : List Node, Node.ReadableAll nodes →
      Sentence ((Node.renderAll nodes).toList ++ rest) (Node.tokensAll nodes ++ tokens)
  | [], _ => h
  | [node], hr => by
      have hnode := Node.sentence_render hends h node hr.1
      simpa [Node.renderAll, Node.tokensAll] using hnode
  | node :: next :: nodes, hr => by
      have hrest := Node.sentence_renderAll hends h (next :: nodes) hr.2
      have hblank := Sentence.blank (show Text.isBlank ' ' = true by decide) hrest
      have hends' : EndsSymbol (' ' :: ((Node.renderAll (next :: nodes)).toList ++ rest)) :=
        Or.inr (Or.inr (by decide))
      have hnode := Node.sentence_render hends' hblank node hr.1
      simpa [Node.renderAll, Node.tokensAll] using hnode

end

/-! ## What comes back -/

mutual

/-- What a rendered node comes back as. -/
def Node.again : Node → Node
  | .list items => .list (Node.againAll items)
  | .symbol name => .symbol name
  | .literal (.float x) => .reread x
  | .literal value => .literal value

/-- What several rendered nodes come back as. -/
def Node.againAll : List Node → List Node
  | [] => []
  | node :: rest => node.again :: Node.againAll rest

end

lemma Literal.names_again {value : Literal} (h : Node.Readable (.literal value)) :
    value.token.Names (Node.again (.literal value)) := by
  cases value with
  | string text => exact .string rfl
  | integer n => exact .symbol rfl (classify_integerText h)
  | float x => exact .symbol rfl (classify_floatText x)

mutual

/-- The tokens of a node stand for what it comes back as. -/
lemma Node.flattens_tokens {nodes : List Node} {tokens : List Token} (h : Flattens nodes tokens) :
    ∀ node : Node, node.Readable → Flattens (node.again :: nodes) (node.tokens ++ tokens)
  | .list items, hr => by
      have hitems := Node.flattens_tokensAll items hr
      simpa [Node.again, Node.tokens] using Flattens.list rfl hitems rfl h
  | .symbol _, hr => .atom (.symbol rfl hr.2) h
  | .literal _, hr => .atom (Literal.names_again hr) h

lemma Node.flattens_tokensAll : ∀ nodes : List Node, Node.ReadableAll nodes →
    Flattens (Node.againAll nodes) (Node.tokensAll nodes)
  | [], _ => .nil
  | node :: rest, hr => Node.flattens_tokens (Node.flattens_tokensAll rest hr.2) node hr.1

end

/-- What was read can be rendered and read again. -/
lemma parse_renderAll {nodes : List Node} (h : Node.ReadableAll nodes) :
    parse (Node.renderAll nodes) = .ok (Node.againAll nodes) := by
  have hsentence := Node.sentence_renderAll (show EndsSymbol [] from trivial) .nil nodes h
  rw [List.append_nil, List.append_nil] at hsentence
  have hevents : events (Node.renderAll nodes).toList = (Node.tokensAll nodes).map .ok :=
    eventsFrom_sentence hsentence .start
  have htokens := (parseTokens_eq_ok_iff _ _).mpr (Node.flattens_tokensAll nodes h)
  rw [parse, hevents]
  exact htokens

mutual

/-- What comes back is the same if and only if all floats are positional. -/
lemma Node.same_again : ∀ node : Node, node.Readable →
    (node.again.same node = true ↔ ∀ x ∈ node.floats, Positional x)
  | .list items, hr => by
      simpa [Node.again, Node.same, Node.floats] using Node.sameAll_again items hr
  | .symbol _, _ => by simp [Node.again, Node.same, Node.floats]
  | .literal (.string _), _ => by simp [Node.again, Node.same, Literal.same, Node.floats]
  | .literal (.integer _), _ => by simp [Node.again, Node.same, Literal.same, Node.floats]
  | .literal (.float _), hr => by simpa [Node.again, Node.floats] using same_reread hr

lemma Node.sameAll_again : ∀ nodes : List Node, Node.ReadableAll nodes →
    (Node.sameAll (Node.againAll nodes) nodes = true ↔ ∀ x ∈ Node.floatsAll nodes, Positional x)
  | [], _ => by simp [Node.againAll, Node.sameAll, Node.floatsAll]
  | node :: rest, hr => by
      have hnode := Node.same_again node hr.1
      have hrest := Node.sameAll_again rest hr.2
      simp only [Node.againAll, Node.sameAll, Node.floatsAll, Bool.and_eq_true, List.mem_append,
        hnode, hrest]
      exact ⟨fun h x hx => hx.elim (h.1 x) (h.2 x), fun h => ⟨fun x hx => h x (Or.inl hx),
        fun x hx => h x (Or.inr hx)⟩⟩

end

/-- **Rendering undoes reading**, up to floats that are not positional: what was read can be
rendered and read again, and the nodes are the same if and only if the text of none of their floats
has an exponent or names an infinity. -/
theorem parse_render_iff {source : String} {nodes : List Node} (h : parse source = .ok nodes) :
    (∃ again, parse (Node.renderAll nodes) = .ok again ∧ Node.sameAll again nodes = true) ↔
      ∀ x ∈ Node.floatsAll nodes, Positional x := by
  have hr := readable_of_parse h
  rw [← Node.sameAll_again nodes hr, parse_renderAll hr]
  constructor
  · rintro ⟨again, heq, hsame⟩
    obtain rfl := Except.ok.inj heq
    exact hsame
  · exact fun hsame => ⟨_, rfl, hsame⟩

/-- A half comes back and a hundred thousandth does not. -/
theorem parse_render_half_and_tiny :
    (∃ again, parse (Node.renderAll [.list [.symbol "x", .literal (.float 0.5)]]) = .ok again ∧
      Node.sameAll again [.list [.symbol "x", .literal (.float 0.5)]] = true) ∧
    ¬∃ again, parse (Node.renderAll [.literal (.float 0.00001)]) = .ok again ∧
      Node.sameAll again [.literal (.float 0.00001)] = true := by
  have hhalf : parse "(x 0.5)" = .ok [.list [.symbol "x", .literal (.float 0.5)]] := rfl
  have htiny : parse "0.00001" = .ok [.literal (.float 0.00001)] := rfl
  constructor
  · rw [parse_render_iff hhalf]
    decide +kernel
  · rw [parse_render_iff htiny]
    decide +kernel

end ArenaLisp
