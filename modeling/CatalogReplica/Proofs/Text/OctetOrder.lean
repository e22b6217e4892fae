/-
# CatalogReplica.Proofs.Text.OctetOrder -- texts in the order of their octets

Texts are compared by their characters, and who sees octets compares octets. Both orders
are the same, because the encoding keeps the order of characters: where two characters
differ, their forms differ at some octet, and the smaller character has the smaller one
there. So neither form is the beginning of the other, and what follows does not count.
-/
import CatalogReplica.Text.Octets.Lemmas

namespace CatalogReplica.Octets

/-! ## One octet -/

/-- Octets are compared one after another. -/
theorem ofNat_cons_lt {m n : Nat} (hn : n < 256) {s t : Octets} (h : m < n ∨ m = n ∧ s < t) :
    UInt8.ofNat m :: s < UInt8.ofNat n :: t := by
  rw [List.cons_lt_cons_iff]
  rcases h with hmn | ⟨rfl, hst⟩
  · left
    rw [UInt8.lt_iff_toNat_lt, toNat_ofNat (by omega), toNat_ofNat hn]
    exact hmn
  · exact .inr ⟨rfl, hst⟩

/-! ## The end of a form -/

section Ends

variable {m n : Nat} {s t : Octets}

/-- Two numbers with the same digits, to the base 64, except for the last. -/
theorem lastOctet_lt (hlt : m < n) (hsame : m / 64 = n / 64) :
    UInt8.ofNat (0x80 + m % 64) :: s < UInt8.ofNat (0x80 + n % 64) :: t :=
  ofNat_cons_lt (by omega) (.inl (by omega))

theorem lastTwoOctets_lt (hlt : m < n) (hsame : m / 4096 = n / 4096) :
    UInt8.ofNat (0x80 + m / 64 % 64) :: UInt8.ofNat (0x80 + m % 64) :: s <
      UInt8.ofNat (0x80 + n / 64 % 64) :: UInt8.ofNat (0x80 + n % 64) :: t := by
  refine ofNat_cons_lt (by omega) ?_
  by_cases hdigit : m / 64 = n / 64
  · exact .inr ⟨by omega, lastOctet_lt hlt hdigit⟩
  · exact .inl (by omega)

theorem lastThreeOctets_lt (hlt : m < n) (hsame : m / 262144 = n / 262144) :
    UInt8.ofNat (0x80 + m / 4096 % 64) :: UInt8.ofNat (0x80 + m / 64 % 64) ::
        UInt8.ofNat (0x80 + m % 64) :: s <
      UInt8.ofNat (0x80 + n / 4096 % 64) :: UInt8.ofNat (0x80 + n / 64 % 64) ::
        UInt8.ofNat (0x80 + n % 64) :: t := by
  refine ofNat_cons_lt (by omega) ?_
  by_cases hdigit : m / 4096 = n / 4096
  · exact .inr ⟨by omega, lastTwoOctets_lt hlt hdigit⟩
  · exact .inl (by omega)

end Ends

/-! ## One character -/

/-- The form of a smaller character is smaller, whatever follows the two. -/
theorem ofChar_append_lt {c d : Char} (h : c < d) (s t : Octets) :
    ofChar c ++ s < ofChar d ++ t := by
  have hlt : c.toNat < d.toNat := h
  have hd : d.toNat < 0x110000 := by
    have hvalid : d.toNat < 0xD800 ∨ 0xDFFF < d.toNat ∧ d.toNat < 0x110000 := d.valid
    omega
  unfold ofChar
  generalize c.toNat = m at hlt
  generalize d.toNat = n at hlt hd
  dsimp only
  -- the first octet tells how long a form is; in forms of one length it is the first digit
  by_cases hone : n < 0x80
  · rw [if_pos hone, if_pos (show m < 0x80 by omega)]
    exact ofNat_cons_lt (by omega) (.inl hlt)
  rw [if_neg hone]
  by_cases htwo : n < 0x800
  · rw [if_pos htwo]
    split
    · exact ofNat_cons_lt (by omega) (.inl (by omega))
    rw [if_pos (show m < 0x800 by omega)]
    refine ofNat_cons_lt (by omega) ?_
    by_cases hdigit : m / 64 = n / 64
    · exact .inr ⟨by omega, lastOctet_lt hlt hdigit⟩
    · exact .inl (by omega)
  rw [if_neg htwo]
  by_cases hthree : n < 0x10000
  · rw [if_pos hthree]
    split
    · exact ofNat_cons_lt (by omega) (.inl (by omega))
    split
    · exact ofNat_cons_lt (by omega) (.inl (by omega))
    rw [if_pos (show m < 0x10000 by omega)]
    refine ofNat_cons_lt (by omega) ?_
    by_cases hdigit : m / 4096 = n / 4096
    · exact .inr ⟨by omega, lastTwoOctets_lt hlt hdigit⟩
    · exact .inl (by omega)
  rw [if_neg hthree]
  split
  · exact ofNat_cons_lt (by omega) (.inl (by omega))
  split
  · exact ofNat_cons_lt (by omega) (.inl (by omega))
  split
  · exact ofNat_cons_lt (by omega) (.inl (by omega))
  refine ofNat_cons_lt (by omega) ?_
  by_cases hdigit : m / 262144 = n / 262144
  · exact .inr ⟨by omega, lastThreeOctets_lt hlt hdigit⟩
  · exact .inl (by omega)

theorem ofChar_ne_nil (c : Char) : ofChar c ≠ [] := by
  unfold ofChar
  dsimp only
  split
  · exact List.cons_ne_nil _ _
  · split
    · exact List.cons_ne_nil _ _
    · split <;> exact List.cons_ne_nil _ _

/-! ## Texts -/

theorem ofChars_lt {cs ds : List Char} (h : cs < ds) : ofChars cs < ofChars ds := by
  induction h with
  | nil =>
    rename_i d ds
    rw [ofChars_cons]
    obtain ⟨b, bs, hform⟩ := List.exists_cons_of_ne_nil (ofChar_ne_nil d)
    rw [hform]
    exact List.nil_lt_cons b _
  | cons _ ih =>
    rw [ofChars_cons, ofChars_cons]
    exact List.append_left_lt ih
  | rel hcd =>
    rw [ofChars_cons, ofChars_cons]
    exact ofChar_append_lt hcd _ _

/-- Texts are in order when their octets are. -/
theorem ofString_le_iff (a b : String) : ofString a ≤ ofString b ↔ a ≤ b := by
  have hlt {x y : String} (h : x < y) : ofString x < ofString y := ofChars_lt (String.lt_iff.mp h)
  constructor
  · intro hle
    refine String.not_lt.mp fun hba => ?_
    exact hle (hlt hba)
  · intro hle hba
    by_cases hab : a < b
    · exact List.lt_asymm hba (hlt hab)
    · have hsame : a = b := String.le_antisymm hle (String.not_lt.mp hab)
      exact List.lt_irrefl _ (hsame ▸ hba)

theorem ofString_lt_iff (a b : String) : ofString a < ofString b ↔ a < b := by
  rw [← String.not_le, ← ofString_le_iff, List.not_le]

end CatalogReplica.Octets
