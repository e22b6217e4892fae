/-
# CatalogReplica.Text.Octets.Lemmas -- texts survive as octets

A character is read back from each of the four forms it may be written in, and
so is a text, whatever octets follow it.
-/
import CatalogReplica.Text.Octets

namespace CatalogReplica.Octets

/-! ## One octet -/

theorem toNat_ofNat {n : Nat} (h : n < 256) : (UInt8.ofNat n).toNat = n :=
  UInt8.toNat_ofNat_of_lt' h

theorem isContinuation_of_toNat {b : UInt8} {k : Nat} (hb : b.toNat = 0x80 + k) (hk : k < 64) :
    isContinuation b = true := by
  have low : 0x80 ≤ b := UInt8.le_iff_toNat_le.2 (hb ▸ Nat.le_add_right _ _)
  have high : b < 0xC0 := UInt8.lt_iff_toNat_lt.2 (hb ▸ Nat.add_lt_add_left hk _)
  simp only [isContinuation, low, high, decide_true, Bool.and_self]

theorem payload_of_toNat {b : UInt8} {k : Nat} (hb : b.toNat = 0x80 + k) : payload b = k := by
  unfold payload
  omega

/-! ## One character -/

theorem chars?_one {a : UInt8} (ha : a.toNat < 0x80) (rest : Octets) :
    chars? (a :: rest) = (chars? rest).map (Char.ofNat a.toNat :: ·) := by
  have h : a < 0x80 := UInt8.lt_iff_toNat_lt.2 ha
  rw [chars?.eq_def]
  simp only [h, if_true]

theorem chars?_two {a b : UInt8} {m k : Nat} (ha : a.toNat = 0xC0 + m) (hb : b.toNat = 0x80 + k)
    (hm : 2 ≤ m) (hm' : m < 32) (hk : k < 64) (rest : Octets) :
    chars? (a :: b :: rest) = (chars? rest).map (Char.ofNat (m * 64 + k) :: ·) := by
  have h₁ : ¬ a < 0x80 := by rw [UInt8.lt_iff_toNat_lt, ha]; simp; omega
  have h₂ : ¬ a < 0xC2 := by rw [UInt8.lt_iff_toNat_lt, ha]; simp; omega
  have h₃ : a < 0xE0 := by rw [UInt8.lt_iff_toNat_lt, ha]; simp; omega
  rw [chars?.eq_def]
  simp only [h₁, h₂, h₃, if_true, if_false, isContinuation_of_toNat hb hk, payload_of_toNat hb, ha,
    Nat.add_sub_cancel_left]

theorem chars?_three {a b c : UInt8} {m k l : Nat} (ha : a.toNat = 0xE0 + m)
    (hb : b.toNat = 0x80 + k) (hc : c.toNat = 0x80 + l) (hm : m < 16) (hk : k < 64) (hl : l < 64)
    (low : 0x800 ≤ m * 4096 + k * 64 + l)
    (gap : m * 4096 + k * 64 + l < 0xD800 ∨ 0xE000 ≤ m * 4096 + k * 64 + l) (rest : Octets) :
    chars? (a :: b :: c :: rest) =
      (chars? rest).map (Char.ofNat (m * 4096 + k * 64 + l) :: ·) := by
  have h₁ : ¬ a < 0x80 := by rw [UInt8.lt_iff_toNat_lt, ha]; simp; omega
  have h₂ : ¬ a < 0xC2 := by rw [UInt8.lt_iff_toNat_lt, ha]; simp; omega
  have h₃ : ¬ a < 0xE0 := by simp [UInt8.lt_iff_toNat_lt, ha]
  have h₄ : a < 0xF0 := by rw [UInt8.lt_iff_toNat_lt, ha]; simp; omega
  have inside : ¬ (0xD800 ≤ m * 4096 + k * 64 + l ∧ m * 4096 + k * 64 + l < 0xE000) := by omega
  rw [chars?.eq_def]
  simp only [h₁, h₂, h₃, h₄, if_true, if_false, isContinuation_of_toNat hb hk,
    isContinuation_of_toNat hc hl, payload_of_toNat hb, payload_of_toNat hc, ha,
    Nat.add_sub_cancel_left, ← Bool.decide_and, low, inside, decide_true, decide_false,
    Bool.and_self, Bool.not_false]

theorem chars?_four {a b c d : UInt8} {m j k l : Nat} (ha : a.toNat = 0xF0 + m)
    (hb : b.toNat = 0x80 + j) (hc : c.toNat = 0x80 + k) (hd : d.toNat = 0x80 + l)
    (hm : m < 5) (hj : j < 64) (hk : k < 64) (hl : l < 64)
    (low : 0x10000 ≤ m * 262144 + j * 4096 + k * 64 + l)
    (high : m * 262144 + j * 4096 + k * 64 + l < 0x110000) (rest : Octets) :
    chars? (a :: b :: c :: d :: rest) =
      (chars? rest).map (Char.ofNat (m * 262144 + j * 4096 + k * 64 + l) :: ·) := by
  have h₁ : ¬ a < 0x80 := by rw [UInt8.lt_iff_toNat_lt, ha]; simp; omega
  have h₂ : ¬ a < 0xC2 := by rw [UInt8.lt_iff_toNat_lt, ha]; simp; omega
  have h₃ : ¬ a < 0xE0 := by rw [UInt8.lt_iff_toNat_lt, ha]; simp; omega
  have h₄ : ¬ a < 0xF0 := by simp [UInt8.lt_iff_toNat_lt, ha]
  have h₅ : a < 0xF5 := by rw [UInt8.lt_iff_toNat_lt, ha]; simp; omega
  rw [chars?.eq_def]
  simp only [h₁, h₂, h₃, h₄, h₅, if_true, if_false, isContinuation_of_toNat hb hj,
    isContinuation_of_toNat hc hk, isContinuation_of_toNat hd hl, payload_of_toNat hb,
    payload_of_toNat hc, payload_of_toNat hd, ha, Nat.add_sub_cancel_left, low, high, decide_true,
    Bool.and_self]

/-- Reading takes off a character that was written in front. -/
theorem chars?_ofChar_append (c : Char) (rest : Octets) :
    chars? (ofChar c ++ rest) = (chars? rest).map (c :: ·) := by
  have valid : c.toNat < 0xD800 ∨ 0xDFFF < c.toNat ∧ c.toNat < 0x110000 := c.valid
  have back : Char.ofNat c.toNat = c := Char.ofNat_toNat c
  unfold ofChar
  dsimp only
  split
  · have small : (UInt8.ofNat c.toNat).toNat = c.toNat := toNat_ofNat (by omega)
    rw [List.cons_append, List.nil_append, chars?_one (by omega), small, back]
  · split
    · have whole : c.toNat / 64 * 64 + c.toNat % 64 = c.toNat := by omega
      simp only [List.cons_append, List.nil_append]
      rw [chars?_two (toNat_ofNat (by omega)) (toNat_ofNat (by omega)) (by omega) (by omega)
        (by omega), whole, back]
    · split
      · have whole : c.toNat / 4096 * 4096 + c.toNat / 64 % 64 * 64 + c.toNat % 64 = c.toNat := by
          omega
        simp only [List.cons_append, List.nil_append]
        rw [chars?_three (toNat_ofNat (by omega)) (toNat_ofNat (by omega)) (toNat_ofNat (by omega))
          (by omega) (by omega) (by omega) (by omega) (by omega), whole, back]
      · have whole : c.toNat / 262144 * 262144 + c.toNat / 4096 % 64 * 4096 +
            c.toNat / 64 % 64 * 64 + c.toNat % 64 = c.toNat := by
          omega
        simp only [List.cons_append, List.nil_append]
        rw [chars?_four (toNat_ofNat (by omega)) (toNat_ofNat (by omega)) (toNat_ofNat (by omega))
          (toNat_ofNat (by omega)) (by omega) (by omega) (by omega) (by omega) (by omega)
          (by omega), whole, back]

/-! ## Texts -/

/-- Reading takes off the characters that were written in front. -/
theorem chars?_ofChars_append (cs : List Char) (rest : Octets) :
    chars? (ofChars cs ++ rest) = (chars? rest).map (cs ++ ·) := by
  induction cs with
  | nil => cases h : chars? rest <;> simp [ofChars_nil, h]
  | cons c cs ih =>
    rw [ofChars_cons, List.append_assoc, chars?_ofChar_append, ih]
    cases chars? rest <;> simp

/-- What was written is read back. -/
theorem chars?_ofChars (cs : List Char) : chars? (ofChars cs) = some cs := by
  have h := chars?_ofChars_append cs []
  rwa [List.append_nil, show chars? [] = some [] from rfl, Option.map_some, List.append_nil] at h

/-- A text is read back from its octets. -/
theorem text?_ofString (s : String) : text? (ofString s) = some s := by
  rw [text?, ofString, chars?_ofChars, Option.map_some, String.ofList_toList]

end CatalogReplica.Octets
