import ArenaLisp.Proofs.Exactness
import ArenaLisp.Proofs.Numerals
import Mathlib.Data.Nat.Digits.Defs

/-!
# Integers in texts

An integer can stand in a source as a literal, and in a string that a script has read as a number.
The two readers accept the same texts: digits of base ten with or without a sign, leading zeros
allowed.  They agree on the integer and on whether it fits a machine word, and they differ only in
what they make of any other text: what is no integer literal may be a float or a symbol, but a
string that is no integer is refused.

Digits are read one by one from the left.  What they stand for is said here without reading: the sum
of the digits times their powers of ten.

* `Decimal.Denotes` — the texts that denote an integer, and which one.
* `Decimal.readInteger_of_denotes` — these are read, up to the limit on digits.
* **`readers_agree`** — the two readers, on any text and on the text of any integer.
-/

namespace ArenaLisp

namespace Decimal

/-! ## What is denoted -/

/-- The characters of digits. -/
def digitChars (digits : List (Fin 10)) : List Char := digits.map fun d : Fin 10 => Nat.digitChar d

/-- The number that digits stand for in base ten, the most significant one first. -/
def inBaseTen (digits : List (Fin 10)) : ℕ := Nat.ofDigits 10 (digits.reverse.map Fin.val)

/-- **The texts that denote an integer**: at least one digit, with an optional sign in front. -/
inductive Denotes : List Char → ℤ → Prop where
  | unsigned {digits : List (Fin 10)} :
      digits ≠ [] → Denotes (digitChars digits) (inBaseTen digits)
  | plus {digits : List (Fin 10)} :
      digits ≠ [] → Denotes ('+' :: digitChars digits) (inBaseTen digits)
  | minus {digits : List (Fin 10)} :
      digits ≠ [] → Denotes ('-' :: digitChars digits) (-inBaseTen digits)

lemma isDigit_iff {c : Char} : c.isDigit = true ↔ ∃ d : Fin 10, c = Nat.digitChar d := by
  constructor
  · intro h
    obtain ⟨hlow, hhigh⟩ : 48 ≤ c.toNat ∧ c.toNat ≤ 57 := Char.isDigit_iff_toNat.mp h
    obtain ⟨d, hd⟩ := Nat.exists_eq_add_of_le hlow
    refine ⟨⟨d, by omega⟩, Char.toNat_inj.mp ?_⟩
    rw [Nat.toNat_digitChar_of_lt_ten (by omega)]
    exact hd
  · rintro ⟨d, rfl⟩
    revert d
    decide

lemma isDigit_of_mem_digitChars {digits : List (Fin 10)} {c : Char} (h : c ∈ digitChars digits) :
    c.isDigit = true := by
  obtain ⟨d, -, rfl⟩ := List.mem_map.mp h
  exact isDigit_iff.mpr ⟨d, rfl⟩

lemma isDigits_iff {text : List Char} :
    isDigits text = true ↔ ∃ digits, digits ≠ [] ∧ text = digitChars digits := by
  rw [isDigits, Bool.and_eq_true, List.all_eq_true]
  constructor
  · rintro ⟨hne, hall⟩
    choose! digit hdigit using fun c (hc : c ∈ text) => isDigit_iff.mp (hall c hc)
    refine ⟨text.map digit, by simpa using hne, ?_⟩
    rw [digitChars, List.map_map]
    exact (List.map_id' text).symm.trans (List.map_congr_left hdigit)
  · rintro ⟨digits, hne, rfl⟩
    exact ⟨by cases digits <;> simp_all [digitChars], fun c hc => isDigit_of_mem_digitChars hc⟩

/-- Reading digit by digit gives the sum of the digits times their powers of ten. -/
lemma digitsValue_digitChars (digits : List (Fin 10)) :
    digitsValue (digitChars digits) = inBaseTen digits := by
  induction digits using List.reverseRecOn with
  | nil => rfl
  | append_singleton digits d ih =>
      have hd : ∀ d : Fin 10, (Nat.digitChar d).toNat - '0'.toNat = d := by decide
      unfold digitsValue digitChars inBaseTen at *
      rw [List.map_append, Nat.ofDigitChars_append, ih, List.map_singleton, Nat.ofDigitChars_cons,
        Nat.ofDigitChars_nil, hd, List.reverse_concat, List.map_cons, Nat.ofDigits_cons]
      exact Nat.add_comm _ _

/-! ## What is read -/

lemma splitSign_digitChars (digits : List (Fin 10)) :
    splitSign (digitChars digits) = (false, digitChars digits) :=
  splitSign_of_unsigned fun _ hc => not_sign_of_isDigit (isDigit_of_mem_digitChars hc)

lemma readInteger_of_splitSign {text : List Char} {negative : Bool} {digits : List (Fin 10)}
    (hsplit : splitSign text = (negative, digitChars digits)) (hne : digits ≠ [])
    (hlimit : digits.length ≤ digitLimit) :
    readInteger text = .value (withSign negative (inBaseTen digits)) := by
  have hdigits : isDigits (digitChars digits) = true := isDigits_iff.mpr ⟨digits, hne, rfl⟩
  have hlength : (digitChars digits).length ≤ digitLimit := by simpa [digitChars] using hlimit
  simp only [readInteger, hsplit, hdigits, hlength, if_true, digitsValue_digitChars]

lemma countP_digitChars (digits : List (Fin 10)) :
    (digitChars digits).countP Char.isDigit = digits.length := by
  rw [List.countP_eq_length.mpr fun _ hc => isDigit_of_mem_digitChars hc, digitChars,
    List.length_map]

/-- A text that denotes an integer is read as that integer, if it has not too many digits. -/
lemma readInteger_of_denotes {text : List Char} {n : ℤ} (h : Denotes text n)
    (hlimit : text.countP Char.isDigit ≤ digitLimit) : readInteger text = .value n := by
  cases h with
  | unsigned hne =>
      rw [countP_digitChars] at hlimit
      exact readInteger_of_splitSign (splitSign_digitChars _) hne hlimit
  | @plus digits hne =>
      rw [List.countP_cons_of_neg (by decide), countP_digitChars] at hlimit
      have hsplit : splitSign ('+' :: digitChars digits) = (false, digitChars digits) := rfl
      exact readInteger_of_splitSign hsplit hne hlimit
  | @minus digits hne =>
      rw [List.countP_cons_of_neg (by decide), countP_digitChars] at hlimit
      have hsplit : splitSign ('-' :: digitChars digits) = (true, digitChars digits) := rfl
      exact readInteger_of_splitSign hsplit hne hlimit

/-- Any other text has not the form of an integer. -/
lemma readInteger_of_not_denotes {text : List Char} (h : ∀ n, ¬ Denotes text n) :
    readInteger text = .malformed := by
  have hdigits : isDigits (splitSign text).2 ≠ true := by
    intro hdigits
    obtain ⟨digits, hne, hrest⟩ := isDigits_iff.mp hdigits
    unfold splitSign at hrest
    split at hrest <;> dsimp only at hrest <;> subst hrest
    · exact h _ (.minus hne)
    · exact h _ (.plus hne)
    · exact h _ (.unsigned hne)
  simp only [readInteger, hdigits]
  rfl

/-- A text denotes one integer at most. -/
lemma Denotes.unique {text : List Char} {n m : ℤ} (hn : Denotes text n) (hm : Denotes text m)
    (hlimit : text.countP Char.isDigit ≤ digitLimit) : n = m :=
  Reading.value.inj ((readInteger_of_denotes hn hlimit).symm.trans (readInteger_of_denotes hm hlimit))

end Decimal

open Decimal

/-! ## The two readers -/

/-- The builtin that reads an integer in a text. -/
def Builtin.parseInt : Builtin := ⟨"parse-int", .unary .parseInt⟩

/-- **What the two readers come to** on one text.  They agree on integers, and on those that do not
fit a machine word.  Any other text is a float or a symbol for the one and refused by the other. -/
inductive ReadAlike (text : String) (w : World) :
    Except ReadFault Node → EStateM.Result Fault World Value → Prop where
  | integer {n : ℤ} : Denotes text.toList n → FitsWord n →
      ReadAlike text w (.ok (.literal (.integer n))) (.ok (.integer n) w)
  | unfit {n : ℤ} : Denotes text.toList n → ¬ FitsWord n →
      ReadAlike text w (.error (.literalOutOfRange text))
        (.error (.binding (.overflow "parse-int" n)) w)
  | float {x : Float} : (∀ n, ¬ Denotes text.toList n) →
      ReadAlike text w (.ok (.literal (.float x)))
        (.error (.binding (.notDecimal "parse-int" text)) w)
  | symbol : (∀ n, ¬ Denotes text.toList n) →
      ReadAlike text w (.ok (.symbol text)) (.error (.binding (.notDecimal "parse-int" text)) w)

lemma readAlike (env : Handle) (w : World) {text : String}
    (hlimit : text.toList.countP Char.isDigit ≤ digitLimit) :
    ReadAlike text w (classify text) (Builtin.parseInt.apply env [.string text] w) := by
  have happly : Builtin.parseInt.apply env [.string text] = readDecimal text := rfl
  rw [happly, classify, readDecimal]
  by_cases h : ∃ n, Denotes text.toList n
  · obtain ⟨n, hn⟩ := h
    rw [readInteger_of_denotes hn hlimit]
    by_cases hfits : FitsWord n
    · simp only [fitsWord_iff.mp hfits, if_true, word_of_fits hfits]
      exact .integer hn hfits
    · simp only [mt fitsWord_iff.mpr hfits, word_of_not_fits hfits]
      exact .unfit hn hfits
  · rw [not_exists] at h
    rw [readInteger_of_not_denotes h]
    cases hfloat : plainFloat? text.toList with
    | some x => exact .float h
    | none => exact .symbol h

/-! ## Refusals in words -/

lemma wording_literalOutOfRange (text : String) :
    (Fault.read (.literalOutOfRange text)).label = "ParseError" ∧
      (Fault.read (.literalOutOfRange text)).message =
        "integer literal '" ++ text ++ "' out of range" := by
  refine ⟨rfl, ?_⟩
  show String.join ["integer literal '", text, "' out of range"] = _
  simp [String.join]

lemma wording_overflow (n : ℤ) :
    (Fault.binding (.overflow "parse-int" n)).label = "BindingError" ∧
      (Fault.binding (.overflow "parse-int" n)).message =
        "'parse-int' overflowed: " ++ (Value.integer n).text := by
  refine ⟨rfl, ?_⟩
  show String.join ["'", "parse-int", "' overflowed: ", (Value.integer n).text] = _
  simp [String.join]

lemma wording_notDecimal (text : String) :
    (Fault.binding (.notDecimal "parse-int" text)).label = "BindingError" ∧
      (Fault.binding (.notDecimal "parse-int" text)).message =
        "'parse-int' error parsing '" ++ text ++ "'" := by
  refine ⟨rfl, ?_⟩
  show String.join ["'", "parse-int", "' error parsing '", text, "'"] = _
  simp [String.join]

/-- **The two readers of integers agree.**  On any text with at most as many digits as are read, both
come to an integer exactly if the text denotes it and it fits a machine word; the literal is refused
as out of range exactly if the string is as an overflow, which is if the text denotes an integer that
does not fit; and if the text denotes no integer, the string is refused for that, and in a source it
is a float or a symbol.  On the text of an integer that fits, both come to that integer. -/
theorem readers_agree (env : Handle) (w : World) :
    Builtin.parseInt ∈ Library.builtins ∧
    (∀ text : String, text.toList.countP Char.isDigit ≤ 4300 →
      (∀ n : ℤ,
        (classify text = .ok (.literal (.integer n)) ↔ Denotes text.toList n ∧ FitsWord n) ∧
        (Builtin.parseInt.apply env [.string text] w = .ok (.integer n) w ↔
          Denotes text.toList n ∧ FitsWord n)) ∧
      (classify text = .error (.literalOutOfRange text) ↔
        ∃ n, Denotes text.toList n ∧ ¬ FitsWord n) ∧
      (∀ n : ℤ, Builtin.parseInt.apply env [.string text] w =
          .error (.binding (.overflow "parse-int" n)) w ↔
        Denotes text.toList n ∧ ¬ FitsWord n) ∧
      ((∀ n, ¬ Denotes text.toList n) →
        Builtin.parseInt.apply env [.string text] w =
          .error (.binding (.notDecimal "parse-int" text)) w ∧
        ((∃ x, classify text = .ok (.literal (.float x))) ∨ classify text = .ok (.symbol text)))) ∧
    (∀ n : ℤ, FitsWord n →
      classify (Value.integer n).text = .ok (.literal (.integer n)) ∧
      Builtin.parseInt.apply env [.string (Value.integer n).text] w = .ok (.integer n) w) ∧
    (∀ text : String, (Fault.read (.literalOutOfRange text)).label = "ParseError" ∧
      (Fault.read (.literalOutOfRange text)).message =
        "integer literal '" ++ text ++ "' out of range") ∧
    (∀ n : ℤ, (Fault.binding (.overflow "parse-int" n)).label = "BindingError" ∧
      (Fault.binding (.overflow "parse-int" n)).message =
        "'parse-int' overflowed: " ++ (Value.integer n).text) ∧
    (∀ text : String, (Fault.binding (.notDecimal "parse-int" text)).label = "BindingError" ∧
      (Fault.binding (.notDecimal "parse-int" text)).message =
        "'parse-int' error parsing '" ++ text ++ "'") := by
  refine ⟨by decide, ?_, ?_, wording_literalOutOfRange, wording_overflow, wording_notDecimal⟩
  · intro text hlimit
    have hunique : ∀ {n : ℤ}, Denotes text.toList n → ∀ m, Denotes text.toList m ↔ n = m :=
      fun hn m => ⟨fun hm => hn.unique hm hlimit, fun h => h ▸ hn⟩
    have halike := readAlike env w hlimit
    generalize classify text = node, Builtin.parseInt.apply env [.string text] w = value at halike ⊢
    cases halike with
    | integer hn hfits => simp +contextual [hunique hn, hfits]
    | unfit hn hnot => simp +contextual [hunique hn, hnot]
    | float hnone => simp [hnone]
    | symbol hnone => simp [hnone]
  · intro n hfits
    have hread := readInteger_integerText (fitsWord_iff.mp hfits)
    refine ⟨classify_integerText (fitsWord_iff.mp hfits), ?_⟩
    show readDecimal (integerText n) w = _
    rw [readDecimal, hread]
    simp only [word_of_fits hfits]
    rfl

/-- A sign and leading zeros, the first integer beyond the range, and a digit of another script. -/
theorem readers_agree_edges :
    (Denotes "-007".toList (-7) ∧ FitsWord (-7) ∧
      classify "-007" = .ok (.literal (.integer (-7))) ∧
      Builtin.parseInt.apply 0 [.string "-007"] {} = .ok (.integer (-7)) {}) ∧
    (Denotes "9223372036854775808".toList (2 ^ 63) ∧ ¬ FitsWord (2 ^ 63) ∧
      classify "9223372036854775808" = .error (.literalOutOfRange "9223372036854775808") ∧
      Builtin.parseInt.apply 0 [.string "9223372036854775808"] {} =
        .error (.binding (.overflow "parse-int" (2 ^ 63))) {}) ∧
    ((∀ n, ¬ Denotes "\u0663".toList n) ∧
      Builtin.parseInt.apply 0 [.string "\u0663"] {} =
        .error (.binding (.notDecimal "parse-int" "\u0663")) {}) ∧
    (FitsWord (-2 ^ 63) ∧
      classify (Value.integer (-2 ^ 63)).text = .ok (.literal (.integer (-2 ^ 63)))) := by
  have hseven : Denotes "-007".toList (-7) :=
    @Denotes.minus [0, 0, 7] (by decide)
  have hbeyond : Denotes "9223372036854775808".toList (2 ^ 63) :=
    @Denotes.unsigned [9, 2, 2, 3, 3, 7, 2, 0, 3, 6, 8, 5, 4, 7, 7, 5, 8, 0, 8] (by decide)
  have hother : ∀ n, ¬ Denotes "\u0663".toList n := fun n hn => by
    have hread : readInteger "\u0663".toList = .malformed := rfl
    cases hread.symm.trans (readInteger_of_denotes hn (by decide))
  obtain ⟨-, hagree, hback, -⟩ := readers_agree 0 {}
  obtain ⟨hinteger, -⟩ := hagree "-007" (by decide)
  obtain ⟨-, hliteral, hoverflow, -⟩ := hagree "9223372036854775808" (by decide)
  obtain ⟨-, -, -, hrefused⟩ := hagree "\u0663" (by decide)
  have hfits : FitsWord (-7) := by decide
  have hnot : ¬ FitsWord (2 ^ 63) := by decide
  have hleast : FitsWord (-2 ^ 63) := by decide
  exact ⟨⟨hseven, hfits, (hinteger _).1.mpr ⟨hseven, hfits⟩, (hinteger _).2.mpr ⟨hseven, hfits⟩⟩,
    ⟨hbeyond, hnot, hliteral.mpr ⟨_, hbeyond, hnot⟩, (hoverflow _).mpr ⟨hbeyond, hnot⟩⟩,
    ⟨hother, (hrefused hother).1⟩, ⟨hleast, (hback _ hleast).1⟩⟩

end ArenaLisp
