import ArenaLisp.Files
import Mathlib.Tactic.Common

/-!
# Files that hold a text

A file is a sequence of bytes, and its text is what they decode to, with all line ends made the
same.  The bytes of a text decode to that text: a text can be stored in a file and read again, as
long as it has no carriage return.

* `decodeFrom_encodeChar` — the bytes of one character, in front of any others.
* **`decode_encode`** — the bytes of a text.
* `length_of_decodeFrom`, `length_of_decodeBegun` — a text is no longer than its bytes.
* `FileTree.readText_of_read` — a file that holds the bytes of a text.
-/

namespace ArenaLisp

namespace Text

namespace Utf8

/-! ## Bytes by their ranges -/

lemma toNat_ofNat_byte {n : Nat} (h : n < 256) : (UInt8.ofNat n).toNat = n := by
  rw [UInt8.toNat_ofNat']
  exact Nat.mod_eq_of_lt h

lemma width_eq (a : UInt8) : width a =
    if a.toNat < 0x80 then some 1 else if a.toNat < 0xC2 then none
    else if a.toNat < 0xE0 then some 2 else if a.toNat < 0xF0 then some 3
    else if a.toNat < 0xF5 then some 4 else none := rfl

lemma isContinuation_iff {b : UInt8} :
    isContinuation b = true ↔ 0x80 ≤ b.toNat ∧ b.toNat ≤ 0xBF := by
  simp [isContinuation, UInt8.le_iff_toNat_le]

lemma isSecond_iff {a b : UInt8} : isSecond a b = true ↔ isContinuation b = true ∧
      (a.toNat = 0xE0 → 0xA0 ≤ b.toNat) ∧ (a.toNat = 0xED → b.toNat ≤ 0x9F) ∧
      (a.toNat = 0xF0 → 0x90 ≤ b.toNat) ∧ (a.toNat = 0xF4 → b.toNat ≤ 0x8F) := by
  unfold isSecond
  rw [Bool.and_eq_true]
  simp only [← UInt8.toNat_inj]
  split_ifs <;> simp_all [UInt8.le_iff_toNat_le]

/-! ## Sequences by their widths -/

section Sequences

variable {position : Nat} {a b c d : UInt8} {rest : List UInt8}

lemma decodeFrom_one (ha : width a = some 1) :
    decodeFrom position (a :: rest) =
      (decodeFrom (position + 1) rest).map (Char.ofNat a.toNat :: ·) := by
  rw [decodeFrom.eq_def]
  simp only [ha]

lemma decodeFrom_two (ha : width a = some 2) (hb : isContinuation b = true) :
    decodeFrom position (a :: b :: rest) =
      (decodeFrom (position + 2) rest).map
        (Char.ofNat (a.toNat % 32 * 64 + payload b) :: ·) := by
  rw [decodeFrom.eq_def]
  simp only [ha, hb, if_true]

lemma decodeFrom_three (ha : width a = some 3) (hb : isSecond a b = true)
    (hc : isContinuation c = true) :
    decodeFrom position (a :: b :: c :: rest) =
      (decodeFrom (position + 3) rest).map
        (Char.ofNat (a.toNat % 16 * 4096 + payload b * 64 + payload c) :: ·) := by
  rw [decodeFrom.eq_def]
  simp only [ha, hb, hc, if_true]

lemma decodeFrom_four (ha : width a = some 4) (hb : isSecond a b = true)
    (hc : isContinuation c = true) (hd : isContinuation d = true) :
    decodeFrom position (a :: b :: c :: d :: rest) =
      (decodeFrom (position + 4) rest).map
        (Char.ofNat (a.toNat % 8 * 262144 + payload b * 4096 + payload c * 64 + payload d) ::
          ·) := by
  rw [decodeFrom.eq_def]
  simp only [ha, hb, hc, hd, if_true]

end Sequences

/-! ## Texts -/

/-- The bytes of a character decode to it, whatever follows them. -/
lemma decodeFrom_encodeChar (position : Nat) (c : Char) (rest : List UInt8) :
    decodeFrom position (String.utf8EncodeChar c ++ rest) =
      (decodeFrom (position + (String.utf8EncodeChar c).length) rest).map (c :: ·) := by
  have hvalid : c.toNat < 55296 ∨ 57343 < c.toNat ∧ c.toNat < 1114112 := c.valid
  have hback : ∀ n, n = c.toNat → Char.ofNat n = c := by
    rintro n rfl
    exact c.ofNat_toNat
  unfold String.utf8EncodeChar
  rw [show c.val.toNat = c.toNat from rfl]
  generalize c.toNat = v at hvalid hback ⊢
  dsimp only
  -- the number of bytes is decided by the ranges of the code point
  split_ifs with h1 h2 h3
  · have ha : (UInt8.ofNat v).toNat = v := toNat_ofNat_byte (by omega)
    rw [List.singleton_append, decodeFrom_one, ha, hback v rfl]
    · rfl
    · rw [width_eq, ha, if_pos (by omega)]
  · have ha : (UInt8.ofNat (v / 64 % 32 + 192)).toNat = v / 64 % 32 + 192 :=
      toNat_ofNat_byte (by omega)
    have hb : (UInt8.ofNat (v % 64 + 128)).toNat = v % 64 + 128 := toNat_ofNat_byte (by omega)
    rw [List.cons_append, List.singleton_append, decodeFrom_two, ha, payload, hb,
      hback _ (by omega)]
    · rfl
    · rw [width_eq, ha, if_neg (by omega), if_neg (by omega), if_pos (by omega)]
    · rw [isContinuation_iff, hb]
      omega
  · have ha : (UInt8.ofNat (v / 4096 % 16 + 224)).toNat = v / 4096 % 16 + 224 :=
      toNat_ofNat_byte (by omega)
    have hb : (UInt8.ofNat (v / 64 % 64 + 128)).toNat = v / 64 % 64 + 128 :=
      toNat_ofNat_byte (by omega)
    have hc : (UInt8.ofNat (v % 64 + 128)).toNat = v % 64 + 128 := toNat_ofNat_byte (by omega)
    rw [List.cons_append, List.cons_append, List.singleton_append, decodeFrom_three, ha, payload,
      payload, hb, hc, hback _ (by omega)]
    · rfl
    · rw [width_eq, ha, if_neg (by omega), if_neg (by omega), if_neg (by omega), if_pos (by omega)]
    · rw [isSecond_iff, isContinuation_iff, ha, hb]
      omega
    · rw [isContinuation_iff, hc]
      omega
  · have ha : (UInt8.ofNat (v / 262144 % 8 + 240)).toNat = v / 262144 % 8 + 240 :=
      toNat_ofNat_byte (by omega)
    have hb : (UInt8.ofNat (v / 4096 % 64 + 128)).toNat = v / 4096 % 64 + 128 :=
      toNat_ofNat_byte (by omega)
    have hc : (UInt8.ofNat (v / 64 % 64 + 128)).toNat = v / 64 % 64 + 128 :=
      toNat_ofNat_byte (by omega)
    have hd : (UInt8.ofNat (v % 64 + 128)).toNat = v % 64 + 128 := toNat_ofNat_byte (by omega)
    rw [List.cons_append, List.cons_append, List.cons_append, List.singleton_append,
      decodeFrom_four, ha, payload, payload, payload, hb, hc, hd, hback _ (by omega)]
    · rfl
    · rw [width_eq, ha, if_neg (by omega), if_neg (by omega), if_neg (by omega), if_neg (by omega),
        if_pos (by omega)]
    · rw [isSecond_iff, isContinuation_iff, ha, hb]
      omega
    · rw [isContinuation_iff, hc]
      omega
    · rw [isContinuation_iff, hd]
      omega

lemma decodeFrom_encode (text : List Char) :
    ∀ position, decodeFrom position (encode text) = .ok text := by
  induction text with
  | nil =>
      intro position
      rw [encode, List.flatMap_nil, decodeFrom]
  | cons c rest ih =>
      intro position
      rw [encode, List.flatMap_cons, decodeFrom_encodeChar]
      rw [show rest.flatMap String.utf8EncodeChar = encode rest from rfl, ih]
      rfl

/-- **The bytes of a text decode to that text.** -/
theorem decode_encode (text : List Char) : decode (encode text) = .ok text :=
  decodeFrom_encode text 0

/-! ## Lengths -/

/-- A text that comes to one more character than the rest of its bytes. -/
lemma length_of_map_cons {c : Char} {decoded : Except Malformed (List Char)} {text : List Char}
    {count : Nat} (hrest : ∀ rest, decoded = .ok rest → rest.length ≤ count)
    (h : decoded.map (c :: ·) = .ok text) : text.length ≤ count + 1 := by
  cases decoded with
  | error problem => cases h
  | ok rest =>
      cases h
      exact Nat.succ_le_succ (hrest rest rfl)

/-- A character takes one byte at least. -/
lemma length_of_decodeFrom {position : Nat} {bytes : List UInt8} {text : List Char}
    (h : decodeFrom position bytes = .ok text) : text.length ≤ bytes.length := by
  fun_induction decodeFrom position bytes generalizing text with
  | case1 =>
      cases h
      exact Nat.le_refl 0
  | case3 | case5 | case8 | case13 =>
      refine Nat.le_trans (length_of_map_cons (by assumption) h) ?_
      simp only [List.length_cons]
      omega
  | _ => cases h

/-- What begins a character at the end of the bytes is not part of the text. -/
lemma length_of_decodeBegun {bytes begun : List UInt8} {text : List Char}
    (h : decodeBegun bytes = .ok (text, begun)) : text.length + begun.length ≤ bytes.length := by
  unfold decodeBegun at h
  cases hwhole : decode bytes with
  | ok whole =>
      rw [hwhole] at h
      cases h
      exact length_of_decodeFrom hwhole
  | error problem =>
      simp only [hwhole] at h
      split_ifs at h
      cases hfirst : decode (bytes.take problem.position) with
      | error other =>
          rw [hfirst] at h
          cases h
      | ok first =>
          rw [hfirst] at h
          cases h
          have hlength := length_of_decodeFrom hfirst
          rw [List.length_take] at hlength
          rw [List.length_drop]
          omega

end Utf8

/-- Without carriage returns there is nothing to unify. -/
lemma unifyNewlines_of_not_mem {text : List Char} (h : '\r' ∉ text) :
    unifyNewlines text = text := by
  fun_induction unifyNewlines text with
  | case1 => rfl
  | case2 rest => simp at h
  | case3 rest => simp at h
  | case4 c rest _ _ ih => rw [ih fun hmem => h (List.mem_cons_of_mem _ hmem)]

lemma length_unifyNewlines_le (text : List Char) : (unifyNewlines text).length ≤ text.length := by
  fun_induction unifyNewlines text with
  | case1 => exact Nat.le_refl 0
  | case2 rest ih =>
      simp only [List.length_cons]
      omega
  | case3 rest _ ih => exact Nat.succ_le_succ ih
  | case4 c rest _ _ ih => exact Nat.succ_le_succ ih

end Text

/-- A file that holds the bytes of a text without carriage returns has that text. -/
lemma FileTree.readText_of_read {tree : FileTree} {path : String} {text : List Char}
    (hfile : tree.read path = .ok (Text.Utf8.encode text)) (htext : '\r' ∉ text) :
    tree.readText path = .ok text := by
  rw [FileTree.readText, hfile]
  simp only [Text.Utf8.decode_encode, Text.unifyNewlines_of_not_mem htext]

end ArenaLisp
