import ArenaLisp.Fault.Wording
import ArenaLisp.Library
import ArenaLisp.Proofs.Builtins
import Mathlib.Data.Rat.Floor

/-!
# Arithmetic is exact or refused

On integers that fit a machine word every operation gives the exact integer, or a fault if that does
not fit.  Nothing wraps around and nothing is rounded on the way, however many operands there are:
an operation on many operands goes from left to right and is refused at the first result that does
not fit, even if later operands would lead back into the range.

Division is the one operation whose exact result need not be an integer.  It is rounded toward zero,
and it goes with a remainder that has the sign of the dividend.  Among words only one quotient does
not fit, and its remainder does.

* `towardZero` — a rational number rounded toward zero.
* `Operator.Computes` — what the operations on many operands stand for on integers.
* **`arithmetic_div_mod`** — quotient and remainder of two words.
* **`fold_exact_or_refused`** — the operations on many operands, on any arguments.
-/

namespace ArenaLisp

/-! ## Quotients -/

/-- The integer that a rational number is rounded to on the way to zero. -/
def towardZero (q : ℚ) : ℤ := if 0 ≤ q then ⌊q⌋ else ⌈q⌉

lemma towardZero_intCast_div_natCast (a : ℤ) (n : ℕ) : towardZero (a / n) = a.tdiv n := by
  unfold towardZero
  rcases le_or_gt 0 a with ha | ha
  · have hq : (0 : ℚ) ≤ a / n := by positivity
    rw [if_pos hq, Rat.floor_intCast_div_natCast, Int.tdiv_eq_ediv_of_nonneg ha]
  · have htdiv : a.tdiv n = -(-a / n) := by
      rw [← Int.tdiv_eq_ediv_of_nonneg (by omega), Int.neg_tdiv, neg_neg]
    rcases Nat.eq_zero_or_pos n with rfl | hn
    · simp
    · have hq : ¬ (0 : ℚ) ≤ a / n := by
        rw [not_le]
        exact div_neg_of_neg_of_pos (by exact_mod_cast ha) (by exact_mod_cast hn)
      rw [if_neg hq, Rat.ceil_intCast_div_natCast, htdiv]

/-- Division of integers rounds the exact quotient toward zero. -/
lemma towardZero_div (a b : ℤ) : towardZero (a / b) = a.tdiv b := by
  obtain ⟨n, rfl | rfl⟩ := b.eq_nat_or_neg
  · exact_mod_cast towardZero_intCast_div_natCast a n
  · have hneg : (a : ℚ) / ((-n : ℤ) : ℚ) = ((-a : ℤ) : ℚ) / n := by
      push_cast
      rw [div_neg, neg_div]
    rw [hneg, towardZero_intCast_div_natCast, Int.tdiv_neg, Int.neg_tdiv]

/-- The quotient of the absolute values with the sign put right is the quotient rounded toward
zero. -/
lemma Operator.quotient_eq_tdiv (a b : ℤ) : quotient a b = a.tdiv b := by
  obtain ⟨m, hm⟩ := a.eq_nat_or_neg
  obtain ⟨n, hn⟩ := b.eq_nat_or_neg
  have hq : ((m / n : ℕ) : ℤ) = Int.tdiv m n := rfl
  unfold quotient
  rcases hm with rfl | rfl <;> rcases hn with rfl | rfl
  · rw [if_pos (by omega)]
    simp [hq]
  · rcases Nat.eq_zero_or_pos n with rfl | hn
    · simp
    · rw [if_neg (by omega)]
      simp [hq]
  · rcases Nat.eq_zero_or_pos m with rfl | hm
    · simp
    · rw [if_neg (by omega)]
      simp [hq]
  · rcases Nat.eq_zero_or_pos m with rfl | hm
    · simp
    · rcases Nat.eq_zero_or_pos n with rfl | hn
      · simp
      · rw [if_pos (by omega)]
        simp [hq]

lemma Operator.onIntegers_div (a b : ℤ) : div.onIntegers a b = a.tdiv b := quotient_eq_tdiv a b

lemma Operator.onIntegers_mod (a b : ℤ) : mod.onIntegers a b = a.tmod b := by
  rw [onIntegers, quotient_eq_tdiv, Int.tmod_def]

instance (n : ℤ) : Decidable (FitsWord n) := inferInstanceAs (Decidable (_ ∧ _))

/-- A quotient of words is a word, but for the least word divided by minus one. -/
lemma fitsWord_tdiv_iff {a b : ℤ} (ha : FitsWord a) (hb : b ≠ 0) :
    FitsWord (a.tdiv b) ↔ ¬ (a = -2 ^ 63 ∧ b = -1) := by
  unfold FitsWord at *
  rcases eq_or_ne b (-1) with rfl | hne
  · rw [Int.tdiv_neg, Int.tdiv_one]
    omega
  · have hle : (a.tdiv b).natAbs ≤ a.natAbs := Int.natAbs_tdiv_le_natAbs a b
    refine iff_of_true ?_ fun h => hne h.2
    rcases eq_or_ne b 1 with rfl | hne'
    · rwa [Int.tdiv_one]
    · have hhalf : (a.tdiv b).natAbs ≤ a.natAbs / 2 := by
        rw [Int.natAbs_tdiv]
        exact Nat.div_le_div_left (by omega) (by decide)
      omega

/-- The remainder is smaller than the divisor and has the sign of the dividend. -/
lemma abs_tmod_lt (a : ℤ) {b : ℤ} (hb : b ≠ 0) :
    |a.tmod b| < |b| ∧ (a.tmod b = 0 ∨ (a.tmod b).sign = a.sign) := by
  constructor
  · rw [Int.abs_eq_natAbs, Int.abs_eq_natAbs, Int.natAbs_tmod]
    exact_mod_cast Nat.mod_lt _ (Int.natAbs_pos.mpr hb)
  · by_cases hdvd : b ∣ a
    · exact Or.inl (Int.tmod_eq_zero_of_dvd hdvd)
    · exact Or.inr (by rw [Int.sign_tmod, if_neg hdvd])

lemma fitsWord_tmod {a b : ℤ} (hb : FitsWord b) (hne : b ≠ 0) : FitsWord (a.tmod b) := by
  have hlt := (abs_tmod_lt a hne).1
  unfold FitsWord at *
  rw [abs_lt] at hlt
  rcases abs_choice b with h | h <;> rw [h] at hlt <;> omega

/-! ## Two integers -/

lemma word_of_fits {n : ℤ} (hn : FitsWord n) (name : String) : word name n = .ok (.integer n) := by
  rw [word, if_pos (fitsWord_iff.mp hn)]

lemma word_of_not_fits {n : ℤ} (hn : ¬ FitsWord n) (name : String) :
    word name n = .error (.binding (.overflow name n)) := by
  rw [word, if_neg (mt fitsWord_iff.mpr hn)]

lemma arithmetic_integer_zero {op : Operator} (hop : op.divides = true) (a : ℤ) :
    arithmetic op (.integer a) (.integer 0) =
      .error (.binding (.divisionByZero op.name (.integer a) (.integer 0))) := by
  simp [arithmetic, promote, hop]

lemma arithmetic_integer {op : Operator} {b : ℤ} (hb : op.divides = true → b ≠ 0) (a : ℤ) :
    arithmetic op (.integer a) (.integer b) = word op.name (op.onIntegers a b) := by
  have hcond : (op.divides && decide (b = 0)) = false := by
    cases hop : op.divides with
    | false => rfl
    | true => simpa using hb hop
  simp [arithmetic, promote, hcond]

/-- **Quotient and remainder of two words.**  Dividing by zero is refused, whether for the quotient
or for the remainder.  By any other divisor there always is a remainder `r`, smaller than the
divisor and zero or of the sign of the dividend.  With the exact quotient rounded toward zero it
makes up the dividend, and that quotient is what division comes to, unless the least word is divided
by minus one: then the quotient does not fit, and division is refused. -/
theorem arithmetic_div_mod {a b : ℤ} (ha : FitsWord a) (hb : FitsWord b) :
    (b = 0 →
      arithmetic .div (.integer a) (.integer b) =
        .error (.binding (.divisionByZero "/" (.integer a) (.integer b))) ∧
      arithmetic .mod (.integer a) (.integer b) =
        .error (.binding (.divisionByZero "mod" (.integer a) (.integer b)))) ∧
    (b ≠ 0 → ∃ q r : ℤ,
      arithmetic .mod (.integer a) (.integer b) = .ok (.integer r) ∧
      |r| < |b| ∧ (r = 0 ∨ r.sign = a.sign) ∧
      a = q * b + r ∧ q = towardZero (a / b) ∧
      arithmetic .div (.integer a) (.integer b) =
        if a = -2 ^ 63 ∧ b = -1 then .error (.binding (.overflow "/" q)) else .ok (.integer q)) := by
  constructor
  · rintro rfl
    exact ⟨arithmetic_integer_zero rfl a, arithmetic_integer_zero rfl a⟩
  · intro hne
    refine ⟨a.tdiv b, a.tmod b, ?_, (abs_tmod_lt a hne).1, (abs_tmod_lt a hne).2, ?_,
      (towardZero_div a b).symm, ?_⟩
    · rw [arithmetic_integer fun _ => hne, Operator.onIntegers_mod]
      exact word_of_fits (fitsWord_tmod hb hne) _
    · rw [mul_comm, Int.mul_tdiv_add_tmod]
    · rw [arithmetic_integer fun _ => hne, Operator.onIntegers_div]
      split_ifs with hleast
      · exact word_of_not_fits (mt (fitsWord_tdiv_iff ha hne).mp (not_not_intro hleast)) _
      · exact word_of_fits ((fitsWord_tdiv_iff ha hne).mpr hleast) _

/-- The quotient that does not fit, and its remainder, which does. -/
theorem arithmetic_div_mod_least :
    (FitsWord (-2 ^ 63) ∧ FitsWord (-1)) ∧
    arithmetic .mod (.integer (-2 ^ 63)) (.integer (-1)) = .ok (.integer 0) ∧
    arithmetic .div (.integer (-2 ^ 63)) (.integer (-1)) =
      .error (.binding (.overflow "/" (2 ^ 63))) := by
  have ha : FitsWord (-2 ^ 63) := by decide
  have hb : FitsWord (-1) := by decide
  obtain ⟨q, r, hmod, hlt, -, heq, -, hdiv⟩ := (arithmetic_div_mod ha hb).2 (by decide)
  obtain rfl : r = 0 := by simpa using hlt
  obtain rfl : q = 2 ^ 63 := by omega
  exact ⟨⟨ha, hb⟩, hmod, hdiv⟩

/-! ## Many operands -/

/-- What the operations on many operands stand for on integers. -/
inductive Operator.Computes : Operator → (ℤ → ℤ → ℤ) → Prop where
  | add : Computes .add (· + ·)
  | sub : Computes .sub (· - ·)
  | mul : Computes .mul (· * ·)
  | div : Computes .div fun a b => towardZero (a / b)

/-- The builtin that applies an operation to many operands. -/
def Operator.builtin (op : Operator) : Builtin := ⟨op.name, .nonEmpty (.fold op)⟩

/-- Whether integers can be combined from left to right: every result on the way fits a machine
word, and nothing is divided by zero. -/
def Operator.Passes (op : Operator) (f : ℤ → ℤ → ℤ) (first : ℤ) (rest : List ℤ) : Prop :=
  (∀ m ∈ rest.scanl f first, FitsWord m) ∧ (op = .div → ∀ m ∈ rest, m ≠ 0)

instance (op : Operator) (f : ℤ → ℤ → ℤ) (first : ℤ) (rest : List ℤ) :
    Decidable (op.Passes f first rest) := inferInstanceAs (Decidable (_ ∧ _))

namespace Operator

variable {op : Operator} {f : ℤ → ℤ → ℤ}

lemma Computes.mem_library (h : op.Computes f) : op.builtin ∈ Library.builtins := by
  cases h <;> decide

lemma Computes.divides_iff (h : op.Computes f) : op.divides = true ↔ op = .div := by
  cases h <;> decide

lemma Computes.onIntegers_eq (h : op.Computes f) (a b : ℤ) : op.onIntegers a b = f a b := by
  cases h with
  | div => exact (onIntegers_div a b).trans (towardZero_div a b).symm
  | _ => rfl

lemma passes_nil {first : ℤ} : op.Passes f first [] ↔ FitsWord first := by
  simp [Passes]

/-- One operand more at the front: the first result must come about and fit, and the others must
pass from there. -/
lemma passes_cons {first next : ℤ} {rest : List ℤ} (hfirst : FitsWord first) :
    op.Passes f first (next :: rest) ↔
      (op = .div → next ≠ 0) ∧ FitsWord (f first next) ∧ op.Passes f (f first next) rest := by
  have hhead : (∀ m ∈ rest.scanl f (f first next), FitsWord m) → FitsWord (f first next) :=
    fun h => h _ (by cases rest <;> simp)
  simp only [Passes, List.scanl_cons, List.forall_mem_cons]
  tauto

/-- One step on integers that pass. -/
lemma Computes.arithmetic_ok (h : op.Computes f) {a b : ℤ} (hb : op = .div → b ≠ 0)
    (hfits : FitsWord (f a b)) :
    arithmetic op (.integer a) (.integer b) = .ok (.integer (f a b)) := by
  rw [arithmetic_integer (hb ∘ h.divides_iff.mp), h.onIntegers_eq, word_of_fits hfits]

/-- One step on integers that do not pass. -/
lemma Computes.arithmetic_refused (h : op.Computes f) {a b : ℤ}
    (hnot : ¬ ((op = .div → b ≠ 0) ∧ FitsWord (f a b))) :
    ∃ fault, arithmetic op (.integer a) (.integer b) = .error (.binding fault) := by
  by_cases hb : op = .div → b ≠ 0
  · have hfits : ¬ FitsWord (f a b) := fun hfits => hnot ⟨hb, hfits⟩
    exact ⟨_, by rw [arithmetic_integer (hb ∘ h.divides_iff.mp), h.onIntegers_eq,
      word_of_not_fits hfits]⟩
  · obtain ⟨hdiv, rfl⟩ : op = .div ∧ b = 0 := by simpa using hb
    exact ⟨_, arithmetic_integer_zero (h.divides_iff.mpr hdiv) a⟩

/-- Integers that pass are combined exactly. -/
lemma Computes.fold_ok (h : op.Computes f) : ∀ (rest : List ℤ) {first : ℤ}, FitsWord first →
    op.Passes f first rest →
    foldArithmetic op (.integer first) (rest.map .integer) = .ok (.integer (rest.foldl f first)) := by
  intro rest
  induction rest with
  | nil => exact fun _ _ => rfl
  | cons next rest ih =>
      intro first hfirst hpass
      obtain ⟨hnext, hfits, hrest⟩ := (passes_cons hfirst).mp hpass
      rw [List.map_cons, foldArithmetic, h.arithmetic_ok hnext hfits]
      exact ih hfits hrest

/-- Integers that do not pass are refused, at the first step that does not. -/
lemma Computes.fold_refused (h : op.Computes f) : ∀ (rest : List ℤ) {first : ℤ}, FitsWord first →
    ¬ op.Passes f first rest →
    ∃ fault, foldArithmetic op (.integer first) (rest.map .integer) = .error (.binding fault) := by
  intro rest
  induction rest with
  | nil => exact fun hfirst hnot => absurd (passes_nil.mpr hfirst) hnot
  | cons next rest ih =>
      intro first hfirst hnot
      rw [List.map_cons, foldArithmetic]
      by_cases hstep : (op = .div → next ≠ 0) ∧ FitsWord (f first next)
      · rw [h.arithmetic_ok hstep.1 hstep.2]
        exact ih hstep.2 fun hrest => hnot ((passes_cons hfirst).mpr ⟨hstep.1, hstep.2, hrest⟩)
      · obtain ⟨fault, hfault⟩ := h.arithmetic_refused hstep
        exact ⟨fault, by rw [hfault]⟩

end Operator

/-! ## Kinds -/

/-- The values that arithmetic is about. -/
def Value.Numeric (v : Value) : Prop := v.kind = .integer ∨ v.kind = .float

/-- What numbers come to: a number that is a float if one of them is, or a fault of the binding. -/
def Settles (floats : Prop) (r : Except Fault Value) : Prop :=
  (∃ v, r = .ok v ∧ v.Numeric ∧ (v.kind = .float ↔ floats)) ∨ ∃ fault, r = .error (.binding fault)

lemma Value.isNumber_iff {v : Value} : v.isNumber = true ↔ v.Numeric := by
  cases v <;> simp [isNumber, Numeric, kind]

lemma settles_word (name : String) (n : ℤ) : Settles False (word name n) := by
  by_cases hn : FitsWord n
  · exact Or.inl ⟨_, word_of_fits hn name, Or.inl rfl, by simp [Value.kind]⟩
  · exact Or.inr ⟨_, word_of_not_fits hn name⟩

lemma Operator.Computes.settles_floats {op : Operator} {f : ℤ → ℤ → ℤ} (h : op.Computes f)
    (x y : Float) : Settles True ((op.onFloats x y).map .float) := by
  cases h <;> exact Or.inl ⟨_, rfl, Or.inr rfl, by simp [Value.kind]⟩

namespace Operator.Computes

variable {op : Operator} {f : ℤ → ℤ → ℤ}

/-- Two floats, whatever they were made from. -/
lemma settles_promoted (h : op.Computes f) {a b : Value} {x y : Float}
    (hp : promote op.name a b = .ok (.floats x y)) : Settles True (arithmetic op a b) := by
  simp only [arithmetic, hp]
  split_ifs
  · exact Or.inr ⟨_, rfl⟩
  · exact h.settles_floats x y

/-- One step on numbers gives a float as soon as one of them is. -/
lemma settles_arithmetic (h : op.Computes f) {a b : Value} (ha : a.Numeric) (hb : b.Numeric) :
    Settles (a.kind = .float ∨ b.kind = .float) (arithmetic op a b) := by
  cases a <;> simp only [Value.Numeric, Value.kind, reduceCtorEq, or_self] at ha <;>
    cases b <;> simp only [Value.Numeric, Value.kind, reduceCtorEq, or_self] at hb
  case integer.integer a b =>
    simp only [Value.kind, reduceCtorEq, or_self]
    by_cases hzero : op.divides = true → b ≠ 0
    · rw [arithmetic_integer hzero]
      exact settles_word _ _
    · obtain ⟨hdiv, rfl⟩ : op.divides = true ∧ b = 0 := by simpa using hzero
      exact Or.inr ⟨_, arithmetic_integer_zero hdiv a⟩
  all_goals simpa [Value.kind] using h.settles_promoted rfl

/-- Any number of steps. -/
lemma settles_fold (h : op.Computes f) : ∀ (rest : List Value) {first : Value}, first.Numeric →
    (∀ u ∈ rest, u.Numeric) →
    Settles (∃ u ∈ first :: rest, u.kind = .float) (foldArithmetic op first rest) := by
  intro rest
  induction rest with
  | nil => exact fun hfirst _ => Or.inl ⟨_, rfl, hfirst, by simp⟩
  | cons next rest ih =>
      intro first hfirst hrest
      obtain ⟨hnext, hrest⟩ := List.forall_mem_cons.mp hrest
      rw [foldArithmetic]
      rcases h.settles_arithmetic hfirst hnext with ⟨v, hv, hnum, hkind⟩ | ⟨fault, hfault⟩
      · rw [hv]
        rcases ih hnum hrest with ⟨r, hr, hrnum, hrkind⟩ | hfault
        · refine Or.inl ⟨r, hr, hrnum, hrkind.trans ?_⟩
          simp only [List.exists_mem_cons_iff, hkind, or_assoc]
        · exact Or.inr hfault
      · exact Or.inr ⟨fault, by rw [hfault]⟩

end Operator.Computes

/-! ## Calls -/

lemma expectNumbers_of_numeric (name : String) {args : List Value}
    (h : ∀ u ∈ args, u.Numeric) : expectNumbers name args = pure () := by
  induction args with
  | nil => rfl
  | cons v rest ih =>
      obtain ⟨hv, hrest⟩ := List.forall_mem_cons.mp h
      rw [expectNumbers, if_pos (Value.isNumber_iff.mpr hv), ih hrest]

/-- The first argument that is no number is named, whatever comes after it. -/
lemma expectNumbers_append (name : String) {before : List Value} (hb : ∀ u ∈ before, u.Numeric)
    {v : Value} (hv : ¬ v.Numeric) (after : List Value) :
    expectNumbers name (before ++ v :: after) = unexpected name [.integer, .float] v := by
  induction before with
  | nil => rw [List.nil_append, expectNumbers, if_neg (mt Value.isNumber_iff.mp hv)]
  | cons u before ih =>
      obtain ⟨hu, hb⟩ := List.forall_mem_cons.mp hb
      rw [List.cons_append, expectNumbers, if_pos (Value.isNumber_iff.mpr hu), ih hb]

/-- The wording of a fault about an argument that is no number. -/
lemma message_notNumeric (name : String) (v : Value) :
    (Fault.binding (.unexpectedKind name [.integer, .float] v)).message =
      "'" ++ name ++ "' expects integer or float, got " ++ v.describe := by
  show String.join ["'", name, "' expects ", "integer or float", ", got ", v.describe] = _
  simp [String.join, String.append_assoc]

namespace Operator

variable {op : Operator} (env : Handle) (w : World)

lemma builtin_apply_of_numeric {first : Value} {rest : List Value}
    (h : ∀ u ∈ first :: rest, u.Numeric) :
    op.builtin.apply env (first :: rest) = Run.ofExcept (foldArithmetic op first rest) := by
  show (expectNumbers op.name (first :: rest) >>= fun _ => _) = _
  rw [expectNumbers_of_numeric _ h]
  rfl

lemma builtin_apply_of_not_numeric {before : List Value} (hb : ∀ u ∈ before, u.Numeric)
    {v : Value} (hv : ¬ v.Numeric) (after : List Value) :
    op.builtin.apply env (before ++ v :: after) w =
      .error (.binding (.unexpectedKind op.name [.integer, .float] v)) w := by
  obtain ⟨first, rest, heq⟩ := List.exists_cons_of_ne_nil (List.append_ne_nil_of_right_ne_nil before
    (List.cons_ne_nil v after))
  have hexpect := expectNumbers_append op.name hb hv after
  rw [heq] at hexpect ⊢
  show (expectNumbers op.name (first :: rest) >>= fun _ => _) w = _
  rw [hexpect]
  rfl

end Operator

/-- **The operations on many operands are exact or refused.**  Let `op` be one of the four, and `f`
what it stands for on integers.

If an argument is no number, the call names the first such argument, whatever the others are.  If
all arguments are integers that fit, the call comes to the exact result, from left to right, exactly
if every result on the way fits and nothing is divided by zero; otherwise the binding fails, even if
the last result would have fitted again.  If all arguments are numbers, the call comes to a number,
which is a float exactly if one of the arguments is, or the binding fails. -/
theorem fold_exact_or_refused {op : Operator} {f : ℤ → ℤ → ℤ} (h : op.Computes f) (env : Handle)
    (w : World) :
    op.builtin ∈ Library.builtins ∧
    (∀ before v after, (∀ u ∈ before, u.Numeric) → ¬ v.Numeric → ∃ fault,
      op.builtin.apply env (before ++ v :: after) w = .error (.binding fault) w ∧
        fault = .unexpectedKind op.name [.integer, .float] v ∧
        (Fault.binding fault).message =
          "'" ++ op.name ++ "' expects integer or float, got " ++ v.describe) ∧
    (∀ first rest, (∀ m ∈ first :: rest, FitsWord m) →
      (op.Passes f first rest →
        op.builtin.apply env ((first :: rest).map .integer) w =
          .ok (.integer (rest.foldl f first)) w) ∧
      (¬ op.Passes f first rest → ∃ fault,
        op.builtin.apply env ((first :: rest).map .integer) w = .error (.binding fault) w)) ∧
    (∀ args, args ≠ [] → (∀ u ∈ args, u.Numeric) →
      (∃ v, op.builtin.apply env args w = .ok v w ∧ v.Numeric ∧
        (v.kind = .float ↔ ∃ u ∈ args, u.kind = .float)) ∨
      ∃ fault, op.builtin.apply env args w = .error (.binding fault) w) := by
  refine ⟨h.mem_library, fun before v after hb hv => ⟨_,
    Operator.builtin_apply_of_not_numeric env w hb hv after, rfl, message_notNumeric op.name v⟩,
    ?_, ?_⟩
  · intro first rest hfits
    have hnumeric : ∀ u ∈ (first :: rest).map Value.integer, u.Numeric := by
      simp [Value.Numeric, Value.kind]
    have hfirst : FitsWord first := hfits first (by simp)
    rw [List.map_cons, Operator.builtin_apply_of_numeric env hnumeric]
    constructor
    · intro hpass
      rw [h.fold_ok rest hfirst hpass]
      rfl
    · intro hnot
      obtain ⟨fault, hfault⟩ := h.fold_refused rest hfirst hnot
      exact ⟨fault, by rw [hfault]; rfl⟩
  · intro args hne hnumeric
    obtain ⟨first, rest, rfl⟩ := List.exists_cons_of_ne_nil hne
    obtain ⟨hfirst, hrest⟩ := List.forall_mem_cons.mp hnumeric
    rw [Operator.builtin_apply_of_numeric env hnumeric]
    rcases h.settles_fold rest hfirst hrest with ⟨v, hv, hnum, hkind⟩ | ⟨fault, hfault⟩
    · exact Or.inl ⟨v, by rw [hv]; rfl, hnum, hkind⟩
    · exact Or.inr ⟨fault, by rw [hfault]; rfl⟩

/-- A sum that would come back into the range is refused, the same operands in another order are
added up, and an argument that is no number is named although the sum overflows before it. -/
theorem fold_exact_or_refused_detour :
    let plus : List Value → EStateM.Result Fault World Value := fun args =>
      Operator.add.builtin.apply 0 args {}
    Operator.add.Computes (· + ·) ∧
    (∃ fault, plus [.integer (2 ^ 63 - 1), .integer 1, .integer (-1)] =
      .error (.binding fault) {}) ∧
    plus [.integer (2 ^ 63 - 1), .integer (-1), .integer 1] = .ok (.integer (2 ^ 63 - 1)) {} ∧
    plus [.integer (2 ^ 63 - 1), .integer 1, .string "x"] =
      .error (.binding (.unexpectedKind "+" [.integer, .float] (.string "x"))) {} := by
  intro plus
  obtain ⟨-, hnamed, hexact, -⟩ := fold_exact_or_refused .add 0 {}
  refine ⟨.add, (hexact (2 ^ 63 - 1) [1, -1] ?_).2 ?_, (hexact (2 ^ 63 - 1) [-1, 1] ?_).1 ?_, ?_⟩
  · decide
  · decide
  · decide
  · decide
  · obtain ⟨_, h, rfl, -⟩ := hnamed [.integer (2 ^ 63 - 1), .integer 1] (.string "x") []
      (by simp [Value.Numeric, Value.kind]) (by simp [Value.Numeric, Value.kind])
    exact h

end ArenaLisp
