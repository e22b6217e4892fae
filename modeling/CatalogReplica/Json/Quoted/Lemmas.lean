/-
# CatalogReplica.Json.Quoted.Lemmas -- strings are read back

A character that needs no escape is written in octets that all stand for
themselves, and the others as an escape that names them. So every text is read
back from its string.
-/
import CatalogReplica.Json.Quoted
import CatalogReplica.Text.Octets.Lemmas

namespace CatalogReplica.Json

/-! ## Octets that stand for themselves -/

/-- Whether an octet stands for itself inside a string. -/
def isPlain (b : UInt8) : Bool := b != quote && b != backslash && !(b < 0x20)

theorem push_push (xs ys : Octets) (r : Except Fault (Octets × Octets)) :
    push xs (push ys r) = push (xs ++ ys) r := by
  cases r <;> simp [push]

theorem stringOctets_plain {b : UInt8} (h : isPlain b = true) (s : Octets) :
    stringOctets (b :: s) = push [b] (stringOctets s) := by
  simp only [isPlain, Bool.and_eq_true, bne_iff_ne, Bool.not_eq_true', decide_eq_false_iff_not] at h
  rw [stringOctets.eq_def]
  simp [h.1.1, h.1.2, h.2]

theorem stringOctets_plain_append {bs : Octets} (h : ∀ b ∈ bs, isPlain b = true) (s : Octets) :
    stringOctets (bs ++ s) = push bs (stringOctets s) := by
  induction bs with
  | nil => cases e : stringOctets s <;> simp [push, e]
  | cons b bs ih =>
    rw [List.cons_append, stringOctets_plain (h b (by simp)), ih fun c hc => h c (by simp [hc]),
      push_push, List.singleton_append]

theorem isPlain_of_le {b : UInt8} (h : 0x80 ≤ b.toNat) : isPlain b = true := by
  have h₁ : b ≠ quote := by rintro rfl; revert h; decide
  have h₂ : b ≠ backslash := by rintro rfl; revert h; decide
  have h₃ : ¬ b < 0x20 := by rw [UInt8.lt_iff_toNat_lt]; simp; omega
  simp [isPlain, h₁, h₂, h₃]

theorem isPlain_of_toNat {b : UInt8} (low : 0x20 ≤ b.toNat) (h₁ : b.toNat ≠ 0x22)
    (h₂ : b.toNat ≠ 0x5C) : isPlain b = true := by
  have not_quote : b ≠ quote := fun e => h₁ (e ▸ rfl)
  have not_backslash : b ≠ backslash := fun e => h₂ (e ▸ rfl)
  have not_control : ¬ b < 0x20 := by rw [UInt8.lt_iff_toNat_lt]; simp; omega
  simp [isPlain, not_quote, not_backslash, not_control]

/-- A character that needs no escape is written in octets that need none. -/
theorem isPlain_ofChar {c : Char} (low : 0x20 ≤ c.toNat) (h₁ : c.toNat ≠ 0x22)
    (h₂ : c.toNat ≠ 0x5C) : ∀ b ∈ Octets.ofChar c, isPlain b = true := by
  have top : c.toNat < 0x110000 := by
    have valid : c.toNat < 0xD800 ∨ 0xDFFF < c.toNat ∧ c.toNat < 0x110000 := c.valid
    omega
  intro b hb
  unfold Octets.ofChar at hb
  dsimp only at hb
  split at hb
  · have same : (UInt8.ofNat c.toNat).toNat = c.toNat := Octets.toNat_ofNat (by omega)
    rw [List.mem_singleton] at hb
    rw [hb]
    exact isPlain_of_toNat (by omega) (by omega) (by omega)
  · apply isPlain_of_le
    split at hb
    · simp only [List.mem_cons, List.not_mem_nil, or_false] at hb
      rcases hb with rfl | rfl <;> rw [Octets.toNat_ofNat (by omega)] <;> omega
    · split at hb
      · simp only [List.mem_cons, List.not_mem_nil, or_false] at hb
        rcases hb with rfl | rfl | rfl <;> rw [Octets.toNat_ofNat (by omega)] <;> omega
      · simp only [List.mem_cons, List.not_mem_nil, or_false] at hb
        rcases hb with rfl | rfl | rfl | rfl <;> rw [Octets.toNat_ofNat (by omega)] <;> omega

/-! ## Escapes -/

/-- A short escape is read as the octet that it stands for. -/
theorem stringOctets_simple {e c : UInt8} (h : simpleEscape? e = some c) (s : Octets) :
    stringOctets (backslash :: e :: s) = push [c] (stringOctets s) := by
  have not_hex : (e == 0x75) = false := by
    rw [beq_eq_false_iff_ne]
    rintro rfl
    revert h
    exact nofun
  rw [stringOctets.eq_def]
  simp [not_hex, h, show (backslash == quote) = false from rfl]

/-- A hexadecimal escape outside the surrogates is read as its character. -/
theorem stringOctets_hex {a b c d : UInt8} {n : Nat} (h : hexWord? a b c d = some n)
    (low : isLowSurrogate n = false) (high : isHighSurrogate n = false) (s : Octets) :
    stringOctets (backslash :: 0x75 :: a :: b :: c :: d :: s) =
      push (Octets.ofChar (Char.ofNat n)) (stringOctets s) := by
  rw [stringOctets.eq_def]
  simp [h, low, high, show (backslash == quote) = false from rfl]

theorem stringOctets_quote (s : Octets) : stringOctets (quote :: s) = .ok ([], s) := by
  rw [stringOctets.eq_def]
  rfl

theorem hexWord?_control (n : Fin 32) :
    hexWord? 0x30 0x30 (Octets.ascii (Nat.digitChar (n / 16)))
      (Octets.ascii (Nat.digitChar (n % 16))) = some n.val := by
  revert n
  decide

/-- An escape is a short one that stands for its character, or a hexadecimal one. -/
theorem controlEscape_cases (n : Fin 32) :
    (∃ e, simpleEscape? e = some (.ofNat n) ∧
      Octets.ofChars (controlEscape (Char.ofNat n)) = [backslash, e]) ∨
    Octets.ofChars (controlEscape (Char.ofNat n)) =
      [backslash, 0x75, 0x30, 0x30, Octets.ascii (Nat.digitChar (n / 16)),
        Octets.ascii (Nat.digitChar (n % 16))] := by
  have cases : (n = 8 ∨ n = 9 ∨ n = 10 ∨ n = 12 ∨ n = 13) ∨
      Octets.ofChars (controlEscape (Char.ofNat n)) =
        [backslash, 0x75, 0x30, 0x30, Octets.ascii (Nat.digitChar (n / 16)),
          Octets.ascii (Nat.digitChar (n % 16))] := by
    revert n
    decide
  rcases cases with (rfl | rfl | rfl | rfl | rfl) | h
  · exact .inl ⟨0x62, rfl, rfl⟩
  · exact .inl ⟨0x74, rfl, rfl⟩
  · exact .inl ⟨0x6E, rfl, rfl⟩
  · exact .inl ⟨0x66, rfl, rfl⟩
  · exact .inl ⟨0x72, rfl, rfl⟩
  · exact .inr h

theorem stringOctets_controlEscape (n : Fin 32) (s : Octets) :
    stringOctets (Octets.ofChars (controlEscape (Char.ofNat n)) ++ s) =
      push (Octets.ofChar (Char.ofNat n)) (stringOctets s) := by
  have one : Octets.ofChar (Char.ofNat n) = [.ofNat n] := by
    revert n
    decide
  rcases controlEscape_cases n with ⟨e, h, written⟩ | written
  · rw [written, one]
    exact stringOctets_simple h s
  · rw [written]
    refine stringOctets_hex (hexWord?_control n) ?_ ?_ s <;> revert n <;> decide

/-! ## Strings -/

/-- A character is read back from the form in which it stands in a string. -/
theorem stringOctets_escapedChar (c : Char) (s : Octets) :
    stringOctets (Octets.ofChars (escapedChar c) ++ s) =
      push (Octets.ofChar c) (stringOctets s) := by
  unfold escapedChar
  split
  · rename_i h
    obtain rfl := beq_iff_eq.1 h
    exact stringOctets_simple rfl s
  · split
    · rename_i h
      obtain rfl := beq_iff_eq.1 h
      exact stringOctets_simple rfl s
    · split
      · rename_i h
        have := stringOctets_controlEscape ⟨c.toNat, h⟩ s
        rwa [Char.ofNat_toNat] at this
      · rename_i h₁ h₂ h₃
        rw [Octets.ofChars_cons, Octets.ofChars_nil, List.append_nil]
        refine stringOctets_plain_append (isPlain_ofChar (by omega) ?_ ?_) s
        · intro e
          exact h₁ (beq_iff_eq.2 (Char.toNat_inj.1 e))
        · intro e
          exact h₂ (beq_iff_eq.2 (Char.toNat_inj.1 e))

theorem stringOctets_escaped (cs : List Char) (s : Octets) :
    stringOctets (Octets.ofChars (cs.flatMap escapedChar) ++ s) =
      push (Octets.ofChars cs) (stringOctets s) := by
  induction cs with
  | nil => cases e : stringOctets s <;> simp [push, Octets.ofChars_nil, e]
  | cons c cs ih =>
    rw [List.flatMap_cons, Octets.ofChars_append, List.append_assoc, stringOctets_escapedChar, ih,
      push_push, Octets.ofChars_cons]

/-- A text is read back from its string, whatever follows it. -/
theorem stringBody_written (text : String) (s : Octets) :
    stringBody (Octets.ofChars (text.toList.flatMap escapedChar ++ ['"']) ++ s) =
      .ok (text, s) := by
  have closing : stringOctets (Octets.ofChars ['"'] ++ s) = .ok ([], s) := stringOctets_quote s
  rw [Octets.ofChars_append, List.append_assoc, stringBody, stringOctets_escaped, closing]
  simp [push, bind, Except.bind, Octets.text?, Octets.chars?_ofChars]

end CatalogReplica.Json
