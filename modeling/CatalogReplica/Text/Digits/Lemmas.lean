/-
# CatalogReplica.Text.Digits.Lemmas -- numerals are read back

A decimal numeral is not empty, holds digits only, and has the value of the
number it was written for. A padded numeral has these properties too, and is as
wide as it was asked to be whenever the number leaves room for that.
-/
import CatalogReplica.Text.Digits

namespace CatalogReplica

theorem digitChar_eq {n : Nat} (h : n < 10) :
    isDigit (Nat.digitChar n) = true ∧ digitValue (Nat.digitChar n) = n := by
  match n, h with
  | 0, _ | 1, _ | 2, _ | 3, _ | 4, _ | 5, _ | 6, _ | 7, _ | 8, _ | 9, _ => decide

theorem decimal_of_lt {n : Nat} (h : n < 10) : decimal n = [Nat.digitChar n] := by
  rw [decimal, Nat.toDigits_of_lt_base h]

theorem decimal_of_le {n : Nat} (h : 10 ≤ n) :
    decimal n = decimal (n / 10) ++ [Nat.digitChar (n % 10)] := by
  rw [decimal, Nat.toDigits_eq_if (by decide), if_neg (by omega), decimal]

theorem digitsValue_concat (cs : List Char) (c : Char) :
    digitsValue (cs ++ [c]) = digitsValue cs * 10 + digitValue c := by
  simp [digitsValue]

/-- A numeral has the value of the number it was written for. -/
theorem digitsValue_decimal (n : Nat) : digitsValue (decimal n) = n := by
  induction n using Nat.strongRecOn with
  | _ n ih =>
    rcases Nat.lt_or_ge n 10 with h | h
    · simp [decimal_of_lt h, digitsValue, (digitChar_eq h).2]
    · rw [decimal_of_le h, digitsValue_concat, ih _ (by omega),
        (digitChar_eq (Nat.mod_lt n (by decide))).2]
      omega

theorem isDigit_of_mem_decimal {n : Nat} {c : Char} (h : c ∈ decimal n) : isDigit c = true := by
  induction n using Nat.strongRecOn with
  | _ n ih =>
    rcases Nat.lt_or_ge n 10 with hn | hn
    · rw [decimal_of_lt hn, List.mem_singleton] at h
      exact h ▸ (digitChar_eq hn).1
    · rw [decimal_of_le hn, List.mem_append, List.mem_singleton] at h
      rcases h with h | h
      · exact ih _ (by omega) h
      · exact h ▸ (digitChar_eq (Nat.mod_lt n (by decide))).1

theorem decimal_ne_nil (n : Nat) : decimal n ≠ [] := by
  rcases Nat.lt_or_ge n 10 with h | h
  · simp [decimal_of_lt h]
  · simp [decimal_of_le h]

/-! ## Padded numerals -/

theorem digitsValue_zeros (n : Nat) (ds : List Char) :
    digitsValue (List.replicate n '0' ++ ds) = digitsValue ds := by
  induction n with
  | zero => simp
  | succ n ih =>
    rw [List.replicate_succ, List.cons_append, ← ih]
    simp [digitsValue, digitValue]

/-- Zeros on the left do not change the value. -/
theorem digitsValue_paddedDecimal (w n : Nat) : digitsValue (paddedDecimal w n) = n := by
  rw [paddedDecimal, digitsValue_zeros, digitsValue_decimal]

theorem isDigit_of_mem_paddedDecimal {w n : Nat} {c : Char} (h : c ∈ paddedDecimal w n) :
    isDigit c = true := by
  rw [paddedDecimal, List.mem_append, List.mem_replicate] at h
  rcases h with ⟨_, rfl⟩ | h
  · decide
  · exact isDigit_of_mem_decimal h

theorem paddedDecimal_ne_nil (w n : Nat) : paddedDecimal w n ≠ [] := by
  simp [paddedDecimal, decimal_ne_nil]

theorem pow10_succ (n : Nat) : pow10 (n + 1) = pow10 n * 10 := rfl

theorem length_decimal_le {n k : Nat} (h : n < pow10 k) (hk : 1 ≤ k) :
    (decimal n).length ≤ k := by
  induction k generalizing n with
  | zero => omega
  | succ k ih =>
    rcases Nat.lt_or_ge n 10 with hn | hn
    · simp [decimal_of_lt hn]
    · rw [pow10_succ] at h
      have one_le : 1 ≤ k := by
        rcases k with _ | k
        · rw [show pow10 0 = 1 from rfl] at h
          omega
        · omega
      have := ih (n := n / 10) (by omega) one_le
      rw [decimal_of_le hn, List.length_append, List.length_singleton]
      omega

/-- A number with room for it is as wide as asked. -/
theorem length_paddedDecimal {w n : Nat} (h : n < pow10 w) (hw : 1 ≤ w) :
    (paddedDecimal w n).length = w := by
  have := length_decimal_le h hw
  rw [paddedDecimal, List.length_append, List.length_replicate]
  omega

/-! ## Numerals below a bound -/

/-- A number below the bound is read back from its numeral. -/
theorem natBelow?_decimal {bound n : Nat} (h : n < bound) :
    natBelow? bound (decimal n) = some n := by
  have digits : (decimal n).all isDigit = true :=
    List.all_eq_true.2 fun _ => isDigit_of_mem_decimal
  simp [natBelow?, digits, decimal_ne_nil, digitsValue_decimal, h]

end CatalogReplica
