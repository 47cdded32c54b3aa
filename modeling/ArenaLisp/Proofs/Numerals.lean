import ArenaLisp.Node.Reader
import ArenaLisp.Proofs.Doubles
import Mathlib.Data.List.TakeWhile

/-!
# Texts of numbers

A number is written as a text and read back from it.  Integers come back as they are.  Floats come
back unless their text has an exponent or names an infinity: literals have no exponents, so that
such a text is read as a symbol.

* `Decimal.Positional` — the floats whose text is a literal.
* `classify_cases` — what a symbol token can stand for.
* `Decimal.FloatForm` — the forms that the text of a float can have.
* **`classify_integerText`** — integers come back.
* **`same_reread`** — floats come back if and only if they are positional.
-/

namespace ArenaLisp

open Decimal

namespace Decimal

/-- The characters of literals. -/
def isNumeral (c : Char) : Bool := c.isDigit || decide (c ∈ ['.', '+', '-'])

/-- A float whose text is a literal: it has no exponent and is not infinite. -/
def Positional (x : Float) : Prop :=
  'e' ∉ (floatText x).toList ∧ floatText x ≠ "inf" ∧ floatText x ≠ "-inf"

instance (x : Float) : Decidable (Positional x) :=
  inferInstanceAs (Decidable (_ ∧ _ ∧ _))

/-! ## Reading -/

lemma mem_splitSign_of_mem {c : Char} : ∀ {text : List Char}, c ∈ text → c ∉ ['+', '-'] →
    c ∈ (splitSign text).2 := by
  intro text h hc
  unfold splitSign
  split
  · simp_all
  · simp_all
  · exact h

lemma readInteger_of_mem {text : List Char} {c : Char} (h : c ∈ (splitSign text).2)
    (hc : c.isDigit = false) : readInteger text = .malformed := by
  have hdigits : isDigits (splitSign text).2 = false := by
    simp only [isDigits, Bool.and_eq_false_iff, List.all_eq_false]
    exact Or.inr ⟨c, h, by simp [hc]⟩
  simp [readInteger, hdigits]

/-- An unsigned literal with a point is digits, the point and digits. -/
lemma unsignedPlain_cases {text : List Char} {x : Float} (h : unsignedPlain? text = some x) :
    ∃ whole fraction : List Char, text = whole ++ '.' :: fraction ∧
      (∀ c ∈ whole, c.isDigit = true) ∧ (∀ c ∈ fraction, c.isDigit = true) ∧
      x = Float.ofScientific (digitsValue (whole ++ fraction)) true fraction.length := by
  unfold unsignedPlain? at h
  dsimp only at h
  split at h
  · rename_i fraction hrest
    split_ifs at h with hdigits
    refine ⟨text.takeWhile Char.isDigit, fraction, ?_, ?_, ?_, (Option.some.inj h).symm⟩
    · rw [← hrest, List.takeWhile_append_dropWhile]
    · exact fun c hc => List.mem_takeWhile_imp hc
    · rw [Bool.and_eq_true, List.all_eq_true] at hdigits
      exact hdigits.1
  · cases h

lemma plainFloat_cases {text : List Char} {x : Float} (h : plainFloat? text = some x) :
    ∃ y, unsignedPlain? (splitSign text).2 = some y ∧ x = withFloatSign (splitSign text).1 y := by
  simp only [plainFloat?, Option.map_eq_some_iff] at h
  obtain ⟨y, hy, rfl⟩ := h
  exact ⟨y, hy, rfl⟩

/-- A literal with a point is no integer. -/
lemma readInteger_of_plainFloat {text : List Char} {x : Float} (h : plainFloat? text = some x) :
    readInteger text = .malformed := by
  obtain ⟨y, hy, _⟩ := plainFloat_cases h
  obtain ⟨whole, fraction, htext, _⟩ := unsignedPlain_cases hy
  exact readInteger_of_mem (show '.' ∈ (splitSign text).2 by simp [htext]) (by decide)

/-- What is read as a float has the characters of literals only. -/
lemma isNumeral_of_plainFloat {text : List Char} {x : Float} (h : plainFloat? text = some x)
    {c : Char} (hc : c ∈ text) : isNumeral c = true := by
  by_cases hsign : c ∈ ['+', '-']
  · simp only [isNumeral, Bool.or_eq_true, decide_eq_true_eq]
    exact Or.inr (List.mem_cons_of_mem _ hsign)
  · obtain ⟨y, hy, _⟩ := plainFloat_cases h
    obtain ⟨whole, fraction, htext, hwhole, hfraction, _⟩ := unsignedPlain_cases hy
    have hmem := mem_splitSign_of_mem hc hsign
    rw [htext, List.mem_append, List.mem_cons] at hmem
    rcases hmem with hmem | rfl | hmem
    · simp [isNumeral, hwhole c hmem]
    · rfl
    · simp [isNumeral, hfraction c hmem]

/-- What is read as a float is a number. -/
lemma isNaN_of_plainFloat {text : List Char} {x : Float} (h : plainFloat? text = some x) :
    x.isNaN = false := by
  obtain ⟨y, hy, rfl⟩ := plainFloat_cases h
  obtain ⟨whole, fraction, _, _, _, rfl⟩ := unsignedPlain_cases hy
  unfold withFloatSign
  split_ifs
  · exact Double.isNaN_neg (Double.isNaN_ofScientific ..)
  · exact Double.isNaN_ofScientific ..

end Decimal

/-- What a symbol token can stand for. -/
lemma classify_cases {text : String} {node : Node} (h : classify text = .ok node) :
    (∃ n, inWord n = true ∧ node = .literal (.integer n)) ∨
    (∃ x, x.isNaN = false ∧ node = .literal (.float x)) ∨ node = .symbol text := by
  unfold classify at h
  split at h
  · cases h
  · rename_i n _
    split_ifs at h with hword
    exact Or.inl ⟨n, hword, (Except.ok.inj h).symm⟩
  · split at h
    · rename_i x hx
      exact Or.inr (Or.inl ⟨x, isNaN_of_plainFloat hx, (Except.ok.inj h).symm⟩)
    · exact Or.inr (Or.inr (Except.ok.inj h).symm)

lemma classify_of_plainFloat {text : String} {x : Float} (h : plainFloat? text.toList = some x) :
    classify text = .ok (.literal (.float x)) := by
  simp [classify, readInteger_of_plainFloat h, h]

lemma classify_of_no_number {text : String} (hi : readInteger text.toList = .malformed)
    (hf : plainFloat? text.toList = none) : classify text = .ok (.symbol text) := by
  simp [classify, hi, hf]

/-! ## Integers -/

namespace Decimal

lemma isDigit_of_mem_digitsOf {n : Nat} {c : Char} (h : c ∈ digitsOf n) : c.isDigit = true :=
  Nat.isDigit_of_mem_toDigits (by decide) (by decide) h

lemma isDigits_digitsOf (n : Nat) : isDigits (digitsOf n) = true := by
  have hne : digitsOf n ≠ [] := Nat.toDigits_ne_nil
  simp only [isDigits, Bool.and_eq_true, List.all_eq_true]
  exact ⟨by simpa using hne, fun c hc => isDigit_of_mem_digitsOf hc⟩

/-- A text of digits has no sign. -/
lemma splitSign_of_unsigned {text : List Char} (h : ∀ c ∈ text, c ∉ ['+', '-']) :
    splitSign text = (false, text) := by
  unfold splitSign
  split
  · simp at h
  · simp at h
  · rfl

lemma not_sign_of_isDigit {c : Char} (h : c.isDigit = true) : c ∉ ['+', '-'] := by
  intro hc
  simp only [List.mem_cons, List.not_mem_nil, or_false] at hc
  rcases hc with rfl | rfl <;> exact absurd h (by decide)

/-- The text of an integer: its digits, and a sign in front if it is negative. -/
lemma integerText_cases (n : Int) :
    (0 ≤ n ∧ (integerText n).toList = digitsOf n.natAbs) ∨
      (n < 0 ∧ (integerText n).toList = '-' :: digitsOf n.natAbs) := by
  cases n with
  | ofNat n => exact Or.inl ⟨Int.natCast_nonneg n, by simp [integerText, Int.repr, digitsOf]⟩
  | negSucc n =>
      refine Or.inr ⟨Int.negSucc_lt_zero n, ?_⟩
      simp [integerText, Int.repr, digitsOf]

lemma readInteger_integerText {n : Int} (h : inWord n = true) :
    readInteger (integerText n).toList = .value n := by
  have hlength : (digitsOf n.natAbs).length ≤ digitLimit := by
    have hword : wordMin ≤ n ∧ n ≤ wordMax := by simpa [inWord] using h
    unfold wordMin wordMax at hword
    have hle : (digitsOf n.natAbs).length ≤ 19 :=
      (Nat.length_toDigits_le_iff (by decide) (by decide)).2 (by omega)
    exact Nat.le_trans hle (by decide)
  have hvalue : digitsValue (digitsOf n.natAbs) = n.natAbs := Nat.ofDigitChars_ten_toDigits
  rcases integerText_cases n with ⟨hn, htext⟩ | ⟨hn, htext⟩
  · have hsign := splitSign_of_unsigned fun c (hc : c ∈ digitsOf n.natAbs) =>
      not_sign_of_isDigit (isDigit_of_mem_digitsOf hc)
    simp only [htext, readInteger, hsign, isDigits_digitsOf, hlength, hvalue, if_true, withSign]
    simp
    omega
  · simp only [htext, readInteger, splitSign, isDigits_digitsOf, hlength, hvalue, if_true, withSign]
    congr 1
    omega

end Decimal

/-- **Integers come back** from their texts. -/
lemma classify_integerText {n : Int} (h : inWord n = true) :
    classify (integerText n) = .ok (.literal (.integer n)) := by
  simp [classify, readInteger_integerText h, h]

/-! ## Floats -/

namespace Decimal

/-- The characters of the texts of floats. -/
def isFloatChar (c : Char) : Bool := c.isDigit || decide (c ∈ "+-.aefin".toList)

lemma isFloatChar_of_isDigit {c : Char} (h : c.isDigit = true) : isFloatChar c = true := by
  simp [isFloatChar, h]

/-- Digits only. -/
def Layout.Digital (d : Layout) : Prop := ∀ c ∈ d.digits, c.isDigit = true

lemma digital_layoutOf (significand length : Nat) (point : Int) :
    (layoutOf significand length point).Digital := by
  intro c hc
  have hmem : c ∈ (digitsOf significand).reverse.dropWhile (· = '0') := by
    simpa [layoutOf] using hc
  have hmem := (List.dropWhile_sublist _).subset hmem
  exact isDigit_of_mem_digitsOf (List.mem_reverse.mp hmem)

lemma digital_neighbours {numerator denominator : Nat} {point : Int} {length : Nat} {d : Layout}
    (h : d ∈ neighbours numerator denominator point length) : d.Digital := by
  have hpair : ∀ n n' : Nat, d ∈ [layoutOf n length point, layoutOf n' length point] →
      d.Digital := by
    intro n n' hd
    simp only [List.mem_cons, List.not_mem_nil, or_false] at hd
    rcases hd with rfl | rfl
    · exact digital_layoutOf n length point
    · exact digital_layoutOf n' length point
  unfold neighbours at h
  dsimp only at h
  split at h
  · exact hpair _ _ h
  · exact hpair _ _ h
  · split_ifs at h
    · exact hpair _ _ h
    · exact hpair _ _ h

/-- The first of some decimals that reads back is positional and read as literals are, or it has an
exponent. -/
lemma text_cases {x : Float} {d : Layout} (h : d.readsAs x = true) :
    (d.text = d.plain ∧ unsignedPlain? d.plain = some x) ∨ d.text = d.scientific := by
  unfold Layout.readsAs at h
  unfold Layout.text
  split_ifs at h ⊢ with hplain
  · exact Or.inl ⟨rfl, by simpa using h⟩
  · exact Or.inr rfl

/-- The text of a positive double is positional and reads back, or it has an exponent. -/
lemma positiveText_cases (x : Float) (m : Nat) (q : Int) : ∃ d : Layout, d.Digital ∧
    ((positiveText x m q = d.plain ∧ unsignedPlain? d.plain = some x) ∨
      positiveText x m q = d.scientific) := by
  unfold positiveText
  dsimp only
  generalize hfound : List.findSome? _ _ = found
  cases found with
  | none => exact ⟨_, fun c hc => isDigit_of_mem_digitsOf hc, Or.inr rfl⟩
  | some d =>
      obtain ⟨n, _, hfind⟩ := List.exists_of_findSome?_eq_some hfound
      exact ⟨d, digital_neighbours (List.mem_of_find?_eq_some hfind),
        text_cases (by simpa using List.find?_some hfind)⟩

namespace Layout

variable {d : Layout}

lemma exponent_mem_scientific (d : Layout) : 'e' ∈ d.scientific := by
  simp [scientific]

lemma point_mem_plain (d : Layout) : '.' ∈ d.plain := by
  unfold plain
  split_ifs <;> simp

lemma isFloatChar_plain (h : d.Digital) {c : Char} (hc : c ∈ d.plain) : isFloatChar c = true := by
  have hdigit : ∀ c ∈ d.digits, isFloatChar c = true := fun c hc => isFloatChar_of_isDigit (h c hc)
  unfold plain at hc
  split_ifs at hc
  · simp only [List.mem_cons, List.mem_append, List.mem_replicate] at hc
    rcases hc with rfl | rfl | ⟨_, rfl⟩ | hc
    · rfl
    · rfl
    · rfl
    · exact hdigit c hc
  · simp only [List.mem_append, List.mem_cons] at hc
    rcases hc with hc | rfl | hc
    · exact hdigit c (List.mem_of_mem_take hc)
    · rfl
    · exact hdigit c (List.mem_of_mem_drop hc)
  · simp only [List.mem_append, List.mem_cons, List.mem_replicate, List.not_mem_nil, or_false] at hc
    rcases hc with (hc | ⟨_, rfl⟩) | rfl | rfl
    · exact hdigit c hc
    · rfl
    · rfl
    · rfl

lemma isFloatChar_scientific (h : d.Digital) {c : Char} (hc : c ∈ d.scientific) :
    isFloatChar c = true := by
  have hdigit : ∀ c ∈ d.digits, isFloatChar c = true := fun c hc => isFloatChar_of_isDigit (h c hc)
  unfold scientific at hc
  dsimp only at hc
  rw [List.mem_append, List.mem_cons, List.mem_cons] at hc
  rcases hc with hc | rfl | rfl | hc
  · split at hc
    · rename_i first second rest heq
      rw [heq] at hdigit
      rw [List.mem_cons, List.mem_cons] at hc
      rcases hc with rfl | rfl | hc
      · exact hdigit _ (by simp)
      · rfl
      · exact hdigit _ (List.mem_cons_of_mem _ hc)
    · exact hdigit c hc
  · rfl
  · split_ifs <;> rfl
  · split_ifs at hc
    · rcases List.mem_cons.mp hc with rfl | hc
      · rfl
      · exact isFloatChar_of_isDigit (isDigit_of_mem_digitsOf hc)
    · exact isFloatChar_of_isDigit (isDigit_of_mem_digitsOf hc)

end Layout

/-- A text with the sign of a number in front. -/
def signed (negative : Bool) (text : List Char) : List Char :=
  if negative then '-' :: text else text

/-- The forms that the text of a double can have. -/
inductive FloatForm (x : Float) : List Char → Prop where
  | nan : x.isNaN = true → FloatForm x "nan".toList
  | infinite (negative : Bool) : FloatForm x (signed negative "inf".toList)
  | zero (negative : Bool) : isZero x = true → FloatForm x (signed negative "0.0".toList)
  | plain (negative : Bool) {d : Layout} :
      d.Digital → unsignedPlain? d.plain = some (withFloatSign negative x) →
      FloatForm x (signed negative d.plain)
  | scientific (negative : Bool) {d : Layout} :
      d.Digital → FloatForm x (signed negative d.scientific)

lemma floatForm_floatText (x : Float) : FloatForm x (floatText x).toList := by
  unfold floatText
  dsimp only
  split
  · rename_i h
    exact .nan (Double.isNaN_of_nan h)
  · rw [String.toList_ofList]
    exact .infinite _
  · rename_i h
    rw [String.toList_ofList]
    exact .zero _ (Double.isZero_of_mantissa h)
  · rename_i negative m q _ _
    rw [String.toList_ofList]
    obtain ⟨d, hd, ⟨htext, hreads⟩ | htext⟩ := positiveText_cases (withFloatSign negative x) m q
    · rw [htext]
      exact .plain negative hd hreads
    · rw [htext]
      exact .scientific negative hd

lemma mem_signed {c : Char} {text : List Char} (h : c ∈ text) (negative : Bool) :
    c ∈ signed negative text := by
  cases negative
  · exact h
  · exact List.mem_cons_of_mem _ h

lemma isFloatChar_signed {text : List Char} (h : ∀ c ∈ text, isFloatChar c = true)
    (negative : Bool) : ∀ c ∈ signed negative text, isFloatChar c = true := by
  cases negative
  · exact h
  · rintro c (_ | ⟨_, hc⟩)
    · rfl
    · exact h c hc

/-- A sign in front of a text without one is found. -/
lemma splitSign_signed {text : List Char} (h : splitSign text = (false, text)) (negative : Bool) :
    splitSign (signed negative text) = (negative, text) := by
  cases negative
  · exact h
  · rfl

lemma withFloatSign_withFloatSign (negative : Bool) (x : Float) :
    withFloatSign negative (withFloatSign negative x) = x := by
  cases negative
  · rfl
  · exact Double.neg_neg x

lemma sameNumber_of_isZero {x y : Float} (hx : x.isNaN = false) (hy : y.isNaN = false)
    (hx' : isZero x = true) (hy' : isZero y = true) : sameNumber x y = true := by
  simp only [sameNumber, hx, hy, hx', hy', Bool.not_false, Bool.and_self, Bool.or_true]

namespace FloatForm

variable {x : Float} {text : List Char}

lemma isFloatChar (h : FloatForm x text) : ∀ c ∈ text, isFloatChar c = true := by
  cases h with
  | nan _ => exact List.all_eq_true.mp (by decide)
  | infinite negative => exact isFloatChar_signed (List.all_eq_true.mp (by decide)) negative
  | zero negative _ => exact isFloatChar_signed (List.all_eq_true.mp (by decide)) negative
  | plain negative hd _ =>
      exact isFloatChar_signed (fun c hc => Layout.isFloatChar_plain hd hc) negative
  | scientific negative hd =>
      exact isFloatChar_signed (fun c hc => Layout.isFloatChar_scientific hd hc) negative

/-- The text of a double has a character that no integer has. -/
lemma exists_mem (h : FloatForm x text) : ∃ c ∈ text, c ∈ ['a', 'i', '.', 'e'] := by
  cases h with
  | nan _ => exact ⟨'a', by decide, by decide⟩
  | infinite negative => exact ⟨'i', mem_signed (by decide) negative, by decide⟩
  | zero negative _ => exact ⟨'.', mem_signed (by decide) negative, by decide⟩
  | plain negative _ _ =>
      exact ⟨'.', mem_signed (Layout.point_mem_plain _) negative, by decide⟩
  | scientific negative _ =>
      exact ⟨'e', mem_signed (Layout.exponent_mem_scientific _) negative, by decide⟩

lemma readInteger (h : FloatForm x text) : readInteger text = .malformed := by
  have hkind : ∀ c ∈ ['a', 'i', '.', 'e'], c ∉ ['+', '-'] ∧ c.isDigit = false := by
    simp only [List.forall_mem_cons, List.not_mem_nil, false_imp_iff, implies_true, and_true]
    decide
  obtain ⟨c, hc, hcase⟩ := h.exists_mem
  exact readInteger_of_mem (mem_splitSign_of_mem hc (hkind c hcase).1) (hkind c hcase).2

/-- A text without an exponent reads back. -/
lemma plainFloat (h : FloatForm x text) (hx : x.isNaN = false) (he : 'e' ∉ text)
    (hi : ∀ negative, text ≠ signed negative "inf".toList) :
    ∃ y, plainFloat? text = some y ∧ sameNumber y x = true := by
  cases h with
  | nan hnan =>
      rw [hx] at hnan
      cases hnan
  | infinite negative => exact absurd rfl (hi negative)
  | zero negative hzero =>
      cases negative
      · exact ⟨0.0, by decide, sameNumber_of_isZero (by decide) hx (by decide) hzero⟩
      · exact ⟨-0.0, by decide, sameNumber_of_isZero (by decide) hx (by decide) hzero⟩
  | @plain negative d _ hreads =>
      have hsign : splitSign d.plain = (false, d.plain) := by
        obtain ⟨whole, fraction, htext, hwhole, hfraction, _⟩ := unsignedPlain_cases hreads
        apply splitSign_of_unsigned
        intro c hc
        rw [htext, List.mem_append, List.mem_cons] at hc
        rcases hc with hc | rfl | hc
        · exact not_sign_of_isDigit (hwhole c hc)
        · decide
        · exact not_sign_of_isDigit (hfraction c hc)
      refine ⟨x, ?_, by simp only [sameNumber, hx, decide_true, Bool.true_or]; rfl⟩
      rw [plainFloat?, splitSign_signed hsign]
      simp only [hreads, Option.map_some, withFloatSign_withFloatSign]
  | scientific negative _ =>
      exact absurd (mem_signed (Layout.exponent_mem_scientific _) negative) he

end FloatForm

/-- The text of a float that is not positional is no literal. -/
lemma plainFloat_of_not_positional {x : Float} (h : ¬Positional x) :
    plainFloat? (floatText x).toList = none := by
  cases hf : plainFloat? (floatText x).toList with
  | none => rfl
  | some y =>
      refine absurd ⟨?_, ?_, ?_⟩ h
      · intro he
        exact absurd (isNumeral_of_plainFloat hf he) (by decide)
      · intro hi
        rw [hi] at hf
        exact absurd (isNumeral_of_plainFloat hf (show 'i' ∈ _ by decide)) (by decide)
      · intro hi
        rw [hi] at hf
        exact absurd (isNumeral_of_plainFloat hf (show 'i' ∈ _ by decide)) (by decide)

end Decimal

/-- What the text of a float is read as. -/
def Node.reread (x : Float) : Node :=
  match plainFloat? (floatText x).toList with
  | some y => .literal (.float y)
  | none => .symbol (floatText x)

lemma classify_floatText (x : Float) : classify (floatText x) = .ok (.reread x) := by
  unfold Node.reread
  split
  · rename_i y hy
    exact classify_of_plainFloat hy
  · rename_i hnone
    exact classify_of_no_number (floatForm_floatText x).readInteger hnone

/-- **Floats come back** from their texts if and only if they are positional. -/
theorem same_reread {x : Float} (hx : x.isNaN = false) :
    Node.same (.reread x) (.literal (.float x)) = true ↔ Positional x := by
  constructor
  · intro h
    by_contra hp
    rw [Node.reread, plainFloat_of_not_positional hp] at h
    simp [Node.same] at h
  · rintro ⟨he, hi, hi'⟩
    have hsigned : ∀ negative, (floatText x).toList ≠ signed negative "inf".toList := by
      intro negative heq
      cases negative
      · exact hi (String.toList_inj.mp heq)
      · exact hi' (String.toList_inj.mp heq)
    obtain ⟨y, hy, hsame⟩ := (floatForm_floatText x).plainFloat hx he hsigned
    rw [Node.reread, hy]
    simpa [Node.same, Literal.same] using hsame

end ArenaLisp
