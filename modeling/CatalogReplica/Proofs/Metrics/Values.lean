/-
# CatalogReplica.Proofs.Metrics.Values -- what the metrics show

Everything is measured once, but it shows in many metrics: each set of labels has a counter
of its own. The counters of some names, summed over all of their labels, show how much was
added under these names, as far as 64 bits hold it. A gauge shows what it was set to last,
and whole numbers below 2 to the power of 53 exactly.
-/
import CatalogReplica.Metrics
import Mathlib.Algebra.BigOperators.ModEq
import Mathlib.Algebra.Order.BigOperators.Group.List
import Mathlib.Algebra.Order.Group.Nat
import Mathlib.Algebra.Ring.Nat
import Mathlib.Data.List.Induction

namespace CatalogReplica

/-! ## Whole numbers of a gauge -/

namespace Magnitude

theorem roundedQuotient_one (n : Nat) : roundedQuotient n 1 = n := by
  simp [roundedQuotient, Nat.mod_one]

/-- Below 2 to the power of 53 every natural number is one of those that can be held. -/
theorem nearestNat_of_lt {n : Nat} (h : n < 2 ^ 53) : nearestNat n = n := by
  have hlog : n.log2 - 52 = 0 := by
    rcases Nat.eq_zero_or_pos n with rfl | hpos
    · rfl
    · have hlt : n.log2 < 53 := (Nat.log2_lt (Nat.pos_iff_ne_zero.mp hpos)).mpr h
      omega
  simp only [nearestNat, hlog, pow2, Nat.pow_eq, Nat.pow_zero, roundedQuotient_one, Nat.mul_one]

theorem div_le_roundedQuotient (num den : Nat) : num / den ≤ roundedQuotient num den := by
  unfold roundedQuotient
  dsimp only
  split
  · exact Nat.le_refl _
  · split
    · exact Nat.le_succ _
    · split
      · exact Nat.le_refl _
      · exact Nat.le_succ _

/-- Only zero is held as zero. -/
theorem nearestNat_eq_zero_iff (n : Nat) : nearestNat n = 0 ↔ n = 0 := by
  constructor
  · intro hzero
    by_contra hn
    have hunit : 0 < pow2 (n.log2 - 52) := Nat.two_pow_pos _
    have hle : pow2 (n.log2 - 52) ≤ n :=
      Nat.le_trans (Nat.pow_le_pow_right (by omega) (Nat.sub_le _ _)) (Nat.log2_self_le hn)
    have hquotient : 0 < roundedQuotient n (pow2 (n.log2 - 52)) :=
      Nat.lt_of_lt_of_le (Nat.div_pos hle hunit) (div_le_roundedQuotient _ _)
    have hpos : 0 < nearestNat n := Nat.mul_pos hquotient hunit
    omega
  · rintro rfl
    rfl

end Magnitude

namespace Measurements

variable {ms ns : Measurements} {key : MetricKey} {names : List String} {n : Nat}

/-! ## Gauges -/

/-- What a gauge shows; one that has not been set counts as zero. -/
def shown (ms : Measurements) (key : MetricKey) : Int := (ms.gauge? key).getD 0

/-- What a sample sets a gauge to. -/
def setting? (key : MetricKey) : Sample → Option Int
  | .set k value => if k = key then some value else none
  | _ => none

/-- A gauge has the value that it was set to last. -/
theorem gauge?_eq_getLast? (ms : Measurements) (key : MetricKey) :
    ms.gauge? key = (ms.samples.filterMap (setting? key)).getLast? := by
  unfold gauge?
  induction ms.samples using List.reverseRecOn with
  | nil => rfl
  | append_singleton xs x ih =>
    rw [List.foldl_concat, ih, List.filterMap_append, List.getLast?_append]
    cases x with
    | set k value =>
      by_cases hk : k = key
      · simp [setting?, hk]
      · simp [setting?, hk]
    | count k amount => rfl
    | observe k => rfl

theorem gauge?_append (ms ns : Measurements) (key : MetricKey) :
    gauge? (ms ++ ns) key = (gauge? ns key).or (gauge? ms key) := by
  simp only [gauge?_eq_getLast?, samples_append, List.filterMap_append, List.getLast?_append]

/-! ## Counters -/

/-- How much a sample adds to the counters with these names, whatever the labels. -/
def amount (names : List String) : Sample → Nat
  | .count key n => if key.name ∈ names then n else 0
  | _ => 0

/-- How much was added to the counters with these names. -/
def added (names : List String) (ms : Measurements) : Nat := (ms.samples.map (amount names)).sum

/-- The keys of the counters, each once. -/
def countKeys (ms : Measurements) : List MetricKey :=
  (ms.samples.filterMap fun
    | .count k _ => some k
    | _ => none).eraseDups

/-- What the counters with these names show, over all labels. -/
def sumOf (names : List String) (ms : Measurements) : Nat :=
  ((ms.countKeys.filter (·.name ∈ names)).map ms.counter).sum

/-- The counters with these names show a number, as far as 64 bits hold it. -/
structure Shows (ms : Measurements) (names : List String) (n : Nat) : Prop where
  modulo : ms.sumOf names ≡ n [MOD word]
  exact : n < word → ms.sumOf names = n

theorem added_append (names : List String) (ms ns : Measurements) :
    added names (ms ++ ns) = added names ms + added names ns := by
  simp only [added, samples_append, List.map_append, List.sum_append]

theorem nodup_eraseDups {α : Type} [DecidableEq α] : ∀ xs : List α, xs.eraseDups.Nodup
  | [] => List.nodup_nil
  | x :: xs => by
    rw [List.eraseDups_cons, List.nodup_cons]
    refine ⟨?_, nodup_eraseDups _⟩
    simp [List.mem_eraseDups]
  termination_by xs => xs.length
  decreasing_by exact Nat.lt_succ_of_le (List.length_filter_le _ xs)

/-- Every amount counts under one key. -/
theorem sum_total (names : List String) {keys : List MetricKey} (hkeys : keys.Nodup)
    (xs : List Sample)
    (hall : ∀ key n, Sample.count key n ∈ xs → (key ∈ keys ↔ key.name ∈ names)) :
    (keys.map fun key => total key xs).sum = (xs.map (amount names)).sum := by
  induction xs with
  | nil => simp [total]
  | cons x xs ih =>
    have hrest := ih fun key n hmem => hall key n (List.mem_cons_of_mem x hmem)
    rw [List.map_cons, List.sum_cons, ← hrest]
    cases x with
    | count k n =>
      have hk : k ∈ keys ↔ k.name ∈ names := hall k n List.mem_cons_self
      have hone : (keys.map fun key => if k = key then n else 0).sum =
          if k.name ∈ names then n else 0 := by
        have hothers : ∀ key, key ≠ k → key ∈ keys → (if k = key then n else 0) = 0 :=
          fun key hne _ => if_neg hne.symm
        rw [List.sum_map_eq_nsmul_single k _ hothers, hkeys.count, if_pos rfl]
        simp only [hk, smul_eq_mul, ite_mul, one_mul, zero_mul]
      simp only [total, List.sum_map_add, hone, amount]
    | set k value => simp only [total, amount, Nat.zero_add]
    | observe k => simp only [total, amount, Nat.zero_add]

/-- The counters show what was added to them. -/
theorem shows_added (names : List String) (ms : Measurements) :
    ms.Shows names (ms.added names) := by
  have hsum : ((ms.countKeys.filter (·.name ∈ names)).map fun key => total key ms.samples).sum =
      ms.added names := by
    refine sum_total names ((nodup_eraseDups _).filter _) ms.samples ?_
    intro key n hmem
    have hkey : key ∈ ms.countKeys :=
      List.mem_eraseDups.mpr (List.mem_filterMap.mpr ⟨.count key n, hmem, rfl⟩)
    rw [List.mem_filter, decide_eq_true_iff]
    exact and_iff_right hkey
  rw [← hsum]
  constructor
  · show ((ms.countKeys.filter (·.name ∈ names)).map ms.counter).sum ≡ _ [MOD word]
    refine Nat.ModEq.listSum_map fun key _ => ?_
    exact Nat.mod_modEq _ word
  · intro hlt
    refine congrArg List.sum (List.map_congr_left fun key hkey => ?_)
    -- no counter of the sum is larger than the sum
    have hle : total key ms.samples ≤ _ :=
      List.le_sum_of_mem (List.mem_map_of_mem (f := fun key => total key ms.samples) hkey)
    exact Nat.mod_eq_of_lt (Nat.lt_of_le_of_lt hle hlt)

end Measurements
end CatalogReplica
