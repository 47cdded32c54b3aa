import ArenaLisp.Decimal.Shortest
import Mathlib

/-!
# Doubles: signs and numbers that are none

A double is a sign, an exponent and a mantissa side by side.  Operations on doubles take them apart,
work on the parts and put the result together again.  Two facts about this are needed where doubles
are read and written: changing the sign twice changes nothing, and no literal stands for a double
that is not a number.  Where doubles are compared, a third one is: numeric equality, which looks at
whole doubles, says the same as a comparison of the parts.

* `Double.neg_unpack` — a change of sign touches the sign only.
* **`Double.neg_neg`** — two changes of sign.
* **`Double.isNaN_ofScientific`** — a decimal fraction is a number.
* **`Double.sameNumber_eq_beq`** — numeric equality compares parts.
* `Double.isZero_of_mantissa`, `Double.isNaN_of_nan` — the view of a double and what it views.
-/

namespace ArenaLisp.Double

open Float.Model Float.Model.UnpackedFloat

/-- The bits of a double. -/
def bits (x : Float) : BitVec Format.binary64.numBits := x.toModel.toBits.toBitVec

lemma bits_injective {x y : Float} (h : bits x = bits y) : x = y :=
  Float.toBits_inj.mp (UInt64.eq_of_toBitVec_eq h)

/-! ## Signs -/

lemma neg_neg_sign (s : Sign) : - -s = s := by
  cases s <;> rfl

/-- A change of sign touches the sign only. -/
lemma neg_unpack {spec : Format} (s : Sign) (e : BitVec spec.exponentBits)
    (m : BitVec spec.mantissaBitsWithoutImplicit) :
    (UnpackedFloat.unpack spec (packComponents spec s e m)).neg =
      UnpackedFloat.unpack spec (packComponents spec (-s) e m) := by
  unfold UnpackedFloat.unpack
  simp only [unpackMantissa_packComponents, unpackExponent_packComponents,
    unpackSign_packComponents, Sign.ofBitVec_toBitVec]
  split_ifs <;> rfl

/-- **Two changes of sign** change nothing. -/
theorem neg_neg (x : Float) : - -x = x := by
  apply bits_injective
  show UnpackedFloat.pack .binary64 (UnpackedFloat.unpack .binary64 (UnpackedFloat.pack .binary64
    (UnpackedFloat.unpack .binary64 (bits x)).neg)).neg = bits x
  by_cases hnan : unpackExponent (bits x) = -1#11 ∧ unpackMantissa (bits x) ≠ 0#52
  · -- there is but one double that is not a number
    have hx : bits x = packedNaN .binary64 := x.toModel.valid.eq_packedNaN hnan.1 hnan.2
    rw [hx]
    decide
  · have hparts := packComponents_unpackSign_unpackExponent_unpackMantissa (bits x)
    generalize Sign.ofBitVec (unpackSign (bits x)) = s at hparts
    generalize unpackExponent (bits x) = e at hparts hnan
    generalize unpackMantissa (bits x) = m at hparts hnan
    have hnumber : ∀ s, isNaNBits (packComponents .binary64 s e m) = false := by
      intro s
      simpa [isNaNBits] using hnan
    have hback : ∀ s, UnpackedFloat.pack .binary64 (UnpackedFloat.unpack .binary64
        (packComponents .binary64 s e m)) = packComponents .binary64 s e m := by
      intro s
      rw [pack_unpack, hnumber, if_neg Bool.false_ne_true]
    rw [← hparts, neg_unpack, hback, neg_unpack, hback, neg_neg_sign]

/-! ## Numbers that are none -/

lemma isNaN_unpack (s : Sign) (e : BitVec 11) (m : BitVec 52) :
    (UnpackedFloat.unpack .binary64 (packComponents .binary64 s e m)).isNaN = true ↔
      e = -1#11 ∧ m ≠ 0#52 := by
  unfold UnpackedFloat.unpack
  simp only [unpackMantissa_packComponents, unpackExponent_packComponents]
  split_ifs <;> simp_all [UnpackedFloat.isNaN]

lemma isNaN_pack {u : UnpackedFloat} (h : u.isNaN = false) :
    (UnpackedFloat.unpack .binary64 (UnpackedFloat.pack .binary64 u)).isNaN = false := by
  have hparts : ∀ {s : Sign} {e : BitVec 11} {m : BitVec 52}, (e = -1#11 → m = 0#52) →
      (UnpackedFloat.unpack .binary64 (packComponents .binary64 s e m)).isNaN = false := by
    intro s e m h
    rw [Bool.eq_false_iff, ne_eq, isNaN_unpack]
    exact fun hnan => hnan.2 (h hnan.1)
  cases u with
  | notANumber => cases h
  | infinity s => exact hparts fun _ => rfl
  | zero s => exact hparts fun _ => rfl
  | finite s m e _ =>
      unfold UnpackedFloat.pack
      dsimp only
      split_ifs with hover hnormal
      · exact hparts fun _ => rfl
      · refine hparts fun hmax => ?_
        have hnat := congrArg BitVec.toNat hmax
        rw [BitVec.toNat_ofNat, Nat.mod_eq_of_lt (by omega)] at hnat
        exact absurd hnat (by simp at hover ⊢; omega)
      · exact hparts fun hmax => absurd hmax (by decide)

/-- Rounding yields numbers. -/
lemma isNaN_roundWithAccuracy (spec : Format) (s : Sign) (m : Nat) (e : Int) (a : Accuracy) :
    (roundWithAccuracy spec s m e a).isNaN = false := by
  unfold roundWithAccuracy
  dsimp only
  split_ifs <;> rfl

lemma isNaN_normalize (spec : Format) (m e : Int) (s : Sign) :
    (UnpackedFloat.normalize spec m e s).isNaN = false := by
  unfold UnpackedFloat.normalize
  split
  · exact isNaN_roundWithAccuracy ..
  · rfl
  · exact isNaN_roundWithAccuracy ..

/-- A number divided by one that is neither zero nor infinite. -/
lemma isNaN_div {spec : Format} {u : UnpackedFloat} (hu : u.isNaN = false) (s : Sign) (m : Nat)
    (e : Int) (hm : 0 < m) : (div spec u (.finite s m e hm)).isNaN = false := by
  cases u with
  | notANumber => cases hu
  | infinity _ => rfl
  | zero _ => rfl
  | finite _ _ _ _ => exact isNaN_roundWithAccuracy ..

/-- Whether a double is neither zero nor infinite nor NaN. -/
def isOrdinary (x : Float) : Bool :=
  match x.toModel.unpack with
  | .finite .. => true
  | _ => false

lemma isNaN_div_of_isOrdinary {x y : Float} (hx : x.isNaN = false) (hy : isOrdinary y = true) :
    (x / y).isNaN = false := by
  apply isNaN_pack
  unfold isOrdinary at hy
  split at hy
  · rename_i heq
    rw [heq]
    exact isNaN_div hx ..
  · cases hy

lemma isOrdinary_powersOfTen :
    ∀ y ∈ Float.exactlyRepresentablePowersOfTen.toList, isOrdinary y = true := by
  decide

/-- **A decimal fraction is a number**: it may be too great for a double, and is infinite then, but
it is never not a number. -/
theorem isNaN_ofScientific (m e : Nat) : (Float.ofScientific m true e).isNaN = false := by
  simp only [Float.ofScientific, if_true]
  split_ifs with hsmall
  · refine isNaN_div_of_isOrdinary (isNaN_pack (isNaN_normalize ..)) ?_
    exact isOrdinary_powersOfTen _ (Array.getElem_mem_toList _)
  · apply isNaN_pack
    unfold UnpackedFloat.ofScientific
    split_ifs
    · rfl
    · rfl
    · rfl
    · exact isNaN_roundWithAccuracy ..
    · exact isNaN_roundWithAccuracy ..

lemma isNaN_neg {x : Float} (h : x.isNaN = false) : (-x).isNaN = false := by
  apply isNaN_pack
  have hx : x.toModel.unpack.isNaN = false := h
  cases hu : x.toModel.unpack <;> rw [hu] at hx <;> first | rfl | cases hx

/-! ## Equality -/

open Decimal

/-- The parts of a double put together again. -/
lemma pack_unpack_bits (x : Float) : UnpackedFloat.pack .binary64 x.toModel.unpack = bits x := by
  show UnpackedFloat.pack .binary64 (UnpackedFloat.unpack .binary64 (bits x)) = bits x
  rw [pack_unpack]
  split_ifs with hnan
  · have hparts : unpackExponent (bits x) = -1#11 ∧ unpackMantissa (bits x) ≠ 0#52 := by
      simpa [isNaNBits] using hnan
    exact (x.toModel.valid.eq_packedNaN hparts.1 hparts.2).symm
  · rfl

lemma unpack_injective {x y : Float} (h : x.toModel.unpack = y.toModel.unpack) : x = y := by
  apply bits_injective
  rw [← pack_unpack_bits, h, pack_unpack_bits]

/-- Whether parts are those of a zero. -/
def isZeroParts : UnpackedFloat → Bool
  | .zero _ => true
  | _ => false

lemma compare_sign_self (s : Sign) : compare s s = .eq := by
  cases s <;> rfl

/-- Parts compare as equal if they are the same or both those of a zero. -/
lemma beq_parts_iff (u v : UnpackedFloat) : u.beq v = true ↔
    (u.isNaN = false ∧ v.isNaN = false) ∧
      (u = v ∨ (isZeroParts u = true ∧ isZeroParts v = true)) := by
  rcases u with (_ | _) | _ | (_ | _) | ⟨_ | _, m, e, _⟩ <;>
    rcases v with (_ | _) | _ | (_ | _) | ⟨_ | _, m', e', _⟩ <;>
      simp [UnpackedFloat.beq, UnpackedFloat.compare, UnpackedFloat.isNaN, isZeroParts,
        compare_sign_self, and_comm]

lemma isZeroParts_unpack (x : Float) : isZeroParts x.toModel.unpack = isZero x := by
  rw [Bool.eq_iff_iff, isZero, Bool.or_eq_true, decide_eq_true_iff, decide_eq_true_iff]
  constructor
  · intro h
    cases hx : x.toModel.unpack with
    | zero s =>
        cases s with
        | positive => exact Or.inl (unpack_injective hx)
        | negative => exact Or.inr (unpack_injective hx)
    | _ => rw [hx] at h; cases h
  · rintro (rfl | rfl) <;> decide

/-- **Numeric equality compares parts**, as the floating-point standard has it. -/
theorem sameNumber_eq_beq (x y : Float) : sameNumber x y = (x == y) := by
  have hparts := beq_parts_iff x.toModel.unpack y.toModel.unpack
  have hinjective : x.toModel.unpack = y.toModel.unpack ↔ x = y :=
    ⟨unpack_injective, fun h => h ▸ rfl⟩
  rw [isZeroParts_unpack, isZeroParts_unpack, hinjective] at hparts
  rw [Bool.eq_iff_iff]
  refine Iff.trans ?_ hparts.symm
  simp only [sameNumber, Bool.and_eq_true, Bool.or_eq_true, Bool.not_eq_true', decide_eq_true_eq]
  rfl

/-! ## The view of a double -/

lemma toNat_unpackExponent (b : BitVec Format.binary64.numBits) :
    (unpackExponent b).toNat = b.toNat / leadingBit % exponentCount := by
  simp [unpackExponent, Nat.shiftRight_eq_div_pow, leadingBit, exponentCount]

lemma toNat_unpackMantissa (b : BitVec Format.binary64.numBits) :
    (unpackMantissa b).toNat = b.toNat % leadingBit := by
  simp [unpackMantissa, leadingBit]

/-- What is viewed as no number is none. -/
lemma isNaN_of_nan {x : Float} (h : Binary64.of x = .nan) : x.isNaN = true := by
  unfold Binary64.of at h
  dsimp only at h
  split_ifs at h with hmax hzero
  have hx : (UnpackedFloat.unpack .binary64 (bits x)).isNaN = true := by
    rw [← packComponents_unpackSign_unpackExponent_unpackMantissa (bits x), isNaN_unpack]
    constructor
    · apply BitVec.eq_of_toNat_eq
      rw [toNat_unpackExponent]
      exact hmax
    · intro hm
      have hm := congrArg BitVec.toNat hm
      rw [toNat_unpackMantissa] at hm
      exact hzero hm
  exact hx

/-- What is viewed as zero is one of the two zeros. -/
lemma isZero_of_mantissa {x : Float} {negative : Bool} {q : Int}
    (h : Binary64.of x = .finite negative 0 q) : isZero x = true := by
  unfold Binary64.of at h
  dsimp only at h
  split_ifs at h with hmax hzero hmin
  · have hfraction : x.toBits.toNat % leadingBit = 0 := by
      simpa using (Binary64.finite.inj h).2.1
    have hlt : x.toBits.toNat < 18446744073709551616 := x.toBits.toNat_lt
    have hbits : x.toBits.toNat = 0 ∨ x.toBits.toNat = signBit := by
      simp only [leadingBit, exponentCount, signBit] at *
      omega
    simp only [isZero, Bool.or_eq_true, decide_eq_true_eq]
    rcases hbits with hbits | hbits
    · left
      apply bits_injective
      exact BitVec.eq_of_toNat_eq hbits
    · right
      apply bits_injective
      exact BitVec.eq_of_toNat_eq hbits
  · have hm := (Binary64.finite.inj h).2.1
    simp [leadingBit] at hm

end ArenaLisp.Double
