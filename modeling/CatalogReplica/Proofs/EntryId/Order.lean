/-
# CatalogReplica.Proofs.EntryId.Order -- positions are in a line

An id is one number of 128 bits, its time in the upper half. Ids are ordered as
these numbers are, so all that is known of a linear order holds of positions.
-/
import CatalogReplica.EntryId
import Mathlib.Order.Basic
import Mathlib.Order.Defs.LinearOrder
import Mathlib.Order.Lattice

namespace CatalogReplica.EntryId

/-- The number of 128 bits that an id is. -/
def rank (i : EntryId) : Nat := i.millis * word + i.counter

theorem rank_injective : Function.Injective rank := by
  intro a b h
  obtain ⟨m, c, hm, hc⟩ := a
  obtain ⟨n, d, hn, hd⟩ := b
  unfold rank word at h
  dsimp only at h
  unfold word at hc hd
  have hmillis : m = n := by omega
  subst hmillis
  have hcounter : c = d := by omega
  subst hcounter
  rfl

instance : LinearOrder EntryId := LinearOrder.lift' rank rank_injective

theorem le_iff (a b : EntryId) : a ≤ b ↔ a.le b = true := by
  show a.rank ≤ b.rank ↔ _
  have ha := a.counter_lt
  have hb := b.counter_lt
  unfold rank le word at *
  simp only [Bool.or_eq_true, Bool.and_eq_true, decide_eq_true_eq, beq_iff_eq]
  omega

theorem max_eq (a b : EntryId) : a.max b = Max.max a b := by
  unfold EntryId.max
  by_cases h : a ≤ b
  · rw [if_pos ((le_iff a b).mp h), max_eq_right h]
  · have hle : ¬ a.le b = true := fun e => h ((le_iff a b).mpr e)
    rw [if_neg hle, max_eq_left (le_of_not_ge h)]

theorem zero_le (a : EntryId) : zero ≤ a := by
  show zero.rank ≤ a.rank
  exact Nat.zero_le _

end CatalogReplica.EntryId
