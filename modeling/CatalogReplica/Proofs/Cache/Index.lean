/-
# CatalogReplica.Proofs.Cache.Index -- the category index mirrors the records

The cache keeps two maps, and every edit has to change both of them. What they
have in common is stated once, as `Consistent`: records stand under their own
ids, a category lists exactly the ids of its records, and no category is listed
without one. An edit keeps this, whatever record or id it comes with, and so
does every history of edits.

Listing and unlisting an id are described by what they do to membership alone;
whether a category has to be pruned is decided there and nowhere else.
-/
import CatalogReplica.Cache.Lemmas
import Mathlib.Algebra.GroupWithZero.Nat
import Mathlib.Data.List.Nodup
import Mathlib.Logic.ExistsUnique

namespace CatalogReplica.Cache

/-! ## Histories of edits -/

/-- A call that changes the cache. -/
inductive Edit where
  | upsert (r : Record)
  | remove (id : String)
  deriving DecidableEq

/-- The cache after one edit. -/
def edited (c : Cache) : Edit → Cache
  | .upsert r => c.upsert r
  | .remove id => c.remove id

/-- The cache after edits made one after another. -/
def afterEdits (c : Cache) (es : List Edit) : Cache := es.foldl edited c

@[simp]
theorem afterEdits_nil (c : Cache) : c.afterEdits [] = c := rfl

@[simp]
theorem afterEdits_cons (c : Cache) (e : Edit) (es : List Edit) :
    c.afterEdits (e :: es) = (c.edited e).afterEdits es := rfl

theorem afterEdits_append (c : Cache) (es fs : List Edit) :
    c.afterEdits (es ++ fs) = (c.afterEdits es).afterEdits fs :=
  List.foldl_append

/-! ## Membership in the index -/

section Index

variable (index : Std.TreeMap String IdSet)

/-- An id is listed under a category. -/
def Listed (category id : String) : Prop := id ∈ index.getD category ∅

/-- No category is listed without an id. -/
def Pruned : Prop :=
  ∀ (category : String) (ids : IdSet), index[category]? = some ids → ids.isEmpty = false

theorem listed_list (category id c k : String) :
    Listed (list index category id) c k ↔ (category = c ∧ id = k) ∨ Listed index c k := by
  unfold Listed list
  rw [Std.TreeMap.getD_insert]
  by_cases h : category = c
  · subst h
    simp
  · simp [h]

/-- Unlisting takes out one id, and pruning the category it was the last one of
takes out no other. -/
theorem listed_unlist (category id c k : String) :
    Listed (unlist index category id) c k ↔ ¬ (category = c ∧ id = k) ∧ Listed index c k := by
  unfold Listed unlist
  cases hids : index[category]? with
  | none =>
    have habsent : ∀ k, k ∉ index.getD category ∅ := by
      intro k
      simp [Std.TreeMap.getD_eq_getD_getElem?, hids]
    constructor
    · intro hk
      refine ⟨?_, hk⟩
      rintro ⟨rfl, rfl⟩
      exact habsent _ hk
    · exact And.right
  | some ids =>
    have hget : index.getD category ∅ = ids := by
      simp [Std.TreeMap.getD_eq_getD_getElem?, hids]
    by_cases hc : category = c
    · subst hc
      by_cases hempty : (ids.erase id).isEmpty
      · have hnone : k ∉ ids.erase id := Std.TreeSet.not_mem_of_isEmpty hempty
        simp only [hempty, ↓reduceIte, Std.TreeMap.getD_erase_self, hget]
        simpa using hnone
      · simp only [hempty, Bool.false_eq_true, ↓reduceIte, Std.TreeMap.getD_insert_self, hget]
        simp
    · by_cases hempty : (ids.erase id).isEmpty
      · simp [hempty, Std.TreeMap.getD_erase, hc]
      · simp [hempty, Std.TreeMap.getD_insert, hc]

variable {index}

theorem pruned_list (h : Pruned index) (category id : String) :
    Pruned (list index category id) := by
  intro c ids hids
  unfold list at hids
  rw [Std.TreeMap.getElem?_insert] at hids
  split at hids
  · cases hids
    simp
  · exact h c ids hids

theorem pruned_unlist (h : Pruned index) (category id : String) :
    Pruned (unlist index category id) := by
  intro c ids hids
  unfold unlist at hids
  split at hids
  · exact h c ids hids
  · rename_i old hold
    by_cases hempty : (old.erase id).isEmpty
    · simp only [hempty, ↓reduceIte, Std.TreeMap.getElem?_erase] at hids
      split at hids
      · cases hids
      · exact h c ids hids
    · simp only [hempty, Bool.false_eq_true, ↓reduceIte, Std.TreeMap.getElem?_insert] at hids
      split at hids
      · cases hids
        exact Bool.eq_false_iff.mpr hempty
      · exact h c ids hids

end Index

/-! ## The invariant -/

/-- The two maps of a cache are in step. -/
structure Consistent (c : Cache) : Prop where
  /-- A record stands under its own id. -/
  own : ∀ {id : String} {r : Record}, c.records[id]? = some r → r.id = id
  /-- A category lists the ids of its records and no others. -/
  listed_iff : ∀ category id : String,
    Listed c.index category id ↔ ∃ r, c.records[id]? = some r ∧ r.category = category
  /-- A category without records is not listed. -/
  pruned : Pruned c.index

theorem consistent_empty : empty.Consistent where
  own := by
    intro id r h
    simp [empty] at h
  listed_iff := by
    intro category id
    simp [empty, Listed]
  pruned := by
    intro category ids h
    simp [empty] at h

/-- What an upsert adds to the index, wherever the record was listed before. -/
theorem listed_upsert {c : Cache} (h : c.Consistent) (r : Record) (category id : String) :
    Listed (c.upsert r).index category id ↔
      (r.category = category ∧ r.id = id) ∨ (r.id ≠ id ∧ Listed c.index category id) := by
  unfold upsert
  rw [listed_list]
  cases hold : c.records[r.id]? with
  | none =>
    have hfresh : ¬ Listed c.index category r.id := by
      rw [h.listed_iff, hold]
      simp
    by_cases hid : r.id = id
    · subst hid
      simp [hfresh]
    · simp [hid]
  | some previous =>
    have hprev : Listed c.index category r.id ↔ previous.category = category := by
      rw [h.listed_iff, hold]
      simp
    by_cases hcat : previous.category = r.category
    · -- The record stays where it is, so its id is listed already.
      by_cases hid : r.id = id
      · subst hid
        simp [hcat, hprev]
      · simp [hcat, hid]
    · simp only [hcat, ↓reduceIte, listed_unlist]
      by_cases hid : r.id = id
      · subst hid
        simp only [hprev]
        tauto
      · simp [hid]

theorem consistent_upsert {c : Cache} (h : c.Consistent) (r : Record) :
    (c.upsert r).Consistent where
  own := by
    intro id s hs
    have hget : (c.upsert r).get? id = some s := hs
    rw [get?_upsert] at hget
    split at hget
    · cases hget
      assumption
    · exact h.own hget
  listed_iff := by
    intro category id
    rw [listed_upsert h, h.listed_iff]
    change _ ↔ ∃ s, (c.upsert r).get? id = some s ∧ s.category = category
    rw [get?_upsert]
    by_cases hid : r.id = id
    · simp [hid]
    · simp [hid, get?]
  pruned := by
    unfold upsert
    refine pruned_list ?_ _ _
    split
    · split
      · exact h.pruned
      · exact pruned_unlist h.pruned _ _
    · exact h.pruned

/-- A removal finds the one category that lists its id. -/
theorem listed_remove {c : Cache} (h : c.Consistent) (id category k : String) :
    Listed (c.remove id).index category k ↔ id ≠ k ∧ Listed c.index category k := by
  unfold remove
  cases hold : c.records[id]? with
  | none =>
    have hfresh : ¬ Listed c.index category id := by
      rw [h.listed_iff, hold]
      simp
    constructor
    · intro hk
      exact ⟨fun e => hfresh (e ▸ hk), hk⟩
    · exact And.right
  | some r =>
    rw [listed_unlist]
    by_cases hid : id = k
    · subst hid
      have hcat : Listed c.index category id ↔ r.category = category := by
        rw [h.listed_iff, hold]
        simp
      simp [hcat]
    · simp [hid]

theorem consistent_remove {c : Cache} (h : c.Consistent) (id : String) :
    (c.remove id).Consistent where
  own := by
    intro k s hs
    have hget : (c.remove id).get? k = some s := hs
    rw [get?_remove] at hget
    split at hget
    · cases hget
    · exact h.own hget
  listed_iff := by
    intro category k
    rw [listed_remove h, h.listed_iff]
    change _ ↔ ∃ s, (c.remove id).get? k = some s ∧ s.category = category
    rw [get?_remove]
    by_cases hid : id = k
    · simp [hid]
    · simp [hid, get?]
  pruned := by
    unfold remove
    split
    · exact h.pruned
    · exact pruned_unlist h.pruned _ _

theorem consistent_edited {c : Cache} (h : c.Consistent) (e : Edit) : (c.edited e).Consistent := by
  cases e with
  | upsert r => exact consistent_upsert h r
  | remove id => exact consistent_remove h id

/-- No history of edits brings the two maps out of step. -/
theorem consistent_afterEdits {c : Cache} (h : c.Consistent) (es : List Edit) :
    (c.afterEdits es).Consistent := by
  induction es generalizing c with
  | nil => exact h
  | cons e es ih => exact ih (consistent_edited h e)

/-- A cache that edits of an empty one can lead to. -/
def Reachable (c : Cache) : Prop := ∃ es, c = empty.afterEdits es

theorem Reachable.consistent {c : Cache} (h : c.Reachable) : c.Consistent := by
  obtain ⟨es, rfl⟩ := h
  exact consistent_afterEdits consistent_empty es

theorem Reachable.afterEdits {c : Cache} (h : c.Reachable) (es : List Edit) :
    (c.afterEdits es).Reachable := by
  obtain ⟨fs, rfl⟩ := h
  exact ⟨fs ++ es, (afterEdits_append empty fs es).symm⟩

/-! ## What the index shows -/

section Shown

variable {c : Cache}

theorem mem_ids_iff {category id : String} {ids : IdSet} (hids : c.index[category]? = some ids) :
    id ∈ ids ↔ Listed c.index category id := by
  unfold Listed
  rw [Std.TreeMap.getD_eq_getD_getElem?, hids]
  rfl

theorem index_eq_none_iff (h : c.Consistent) (category : String) :
    c.index[category]? = none ↔
      ∀ (id : String) (r : Record), c.records[id]? = some r → r.category ≠ category := by
  constructor
  · intro hnone id r hr hcat
    have hlisted : Listed c.index category id := (h.listed_iff category id).mpr ⟨r, hr, hcat⟩
    simp [Listed, Std.TreeMap.getD_eq_getD_getElem?, hnone] at hlisted
  · intro hno
    rw [Option.eq_none_iff_forall_not_mem]
    intro ids hids
    obtain ⟨id, hid⟩ := Std.TreeSet.isEmpty_eq_false_iff_exists_mem.mp (h.pruned category ids hids)
    obtain ⟨r, hr, hcat⟩ := (h.listed_iff category id).mp ((mem_ids_iff hids).mp hid)
    exact hno id r hr hcat

theorem mem_categories_iff (h : c.Consistent) (category : String) :
    category ∈ c.categories ↔
      ∃ (id : String) (r : Record), c.records[id]? = some r ∧ r.category = category := by
  rw [categories, Std.TreeMap.mem_keys, Std.TreeMap.mem_iff_isSome_getElem?]
  rw [← Option.ne_none_iff_isSome, ne_eq, index_eq_none_iff h]
  simp only [not_forall, not_not, exists_prop]

/-- Ids of one category after those of the other: every id once. -/
theorem flatMap_ids_perm (h : c.Consistent) :
    (c.categories.flatMap fun category => (c.index.getD category ∅).toList).Perm
      c.records.keys := by
  rw [List.perm_ext_iff_of_nodup]
  · intro id
    simp only [List.mem_flatMap, Std.TreeSet.mem_toList, Std.TreeMap.mem_keys,
      Std.TreeMap.mem_iff_isSome_getElem?, Option.isSome_iff_exists]
    constructor
    · rintro ⟨category, -, hid⟩
      obtain ⟨r, hr, -⟩ := (h.listed_iff category id).mp hid
      exact ⟨r, hr⟩
    · rintro ⟨r, hr⟩
      refine ⟨r.category, ?_, (h.listed_iff r.category id).mpr ⟨r, hr, rfl⟩⟩
      exact (mem_categories_iff h r.category).mpr ⟨id, r, hr, rfl⟩
  · rw [List.nodup_flatMap]
    refine ⟨fun category _ => ?_, ?_⟩
    · exact (Std.TreeSet.distinct_toList).imp Std.ReflCmp.ne_of_cmp_ne_eq
    · -- An id that two categories list would have a record of both.
      refine (Std.TreeMap.nodup_keys (t := c.index)).imp ?_
      intro a b hab id ha hb
      rw [Std.TreeSet.mem_toList] at ha hb
      obtain ⟨r, hr, hra⟩ := (h.listed_iff a id).mp ha
      obtain ⟨s, hs, hsb⟩ := (h.listed_iff b id).mp hb
      rw [hr] at hs
      cases hs
      exact hab (hra.symm.trans hsb)
  · exact Std.TreeMap.nodup_keys

theorem sum_sizes (h : c.Consistent) :
    (c.categories.map fun category => (c.index.getD category ∅).size).sum = c.size := by
  have hlen := (flatMap_ids_perm h).length_eq
  rw [List.length_flatMap, Std.TreeMap.length_keys] at hlen
  simpa [size] using hlen

end Shown

/-- After any history of edits on an empty cache, records stand under their own
ids, the ids listed under a category are those of its records, so that each
record is listed once, and no listed category is empty. Hence the categories
are those of the records, a category without records has no ids to show, and
the sizes of the categories add up to the size of the cache. -/
theorem index_mirrors_records (es : List Edit) :
    let c := empty.afterEdits es
    (∀ (id : String) (r : Record), c.records[id]? = some r → r.id = id) ∧
    (∀ category id : String, id ∈ c.index.getD category ∅ ↔
      ∃ r : Record, c.records[id]? = some r ∧ r.category = category) ∧
    (∀ id : String, id ∈ c.records → ∃! category, id ∈ c.index.getD category ∅) ∧
    (∀ (category : String) (ids : IdSet), c.index[category]? = some ids → ids.isEmpty = false) ∧
    (∀ category : String, category ∈ c.categories ↔
      ∃ (id : String) (r : Record), c.records[id]? = some r ∧ r.category = category) ∧
    c.categories.Nodup ∧
    (∀ category : String, c.categoryIds? category = none ↔
      ∀ (id : String) (r : Record), c.records[id]? = some r → r.category ≠ category) ∧
    (c.categories.map fun category => (c.index.getD category ∅).size).sum = c.size := by
  have h : (empty.afterEdits es).Consistent := Reachable.consistent ⟨es, rfl⟩
  refine ⟨fun _ _ => h.own, h.listed_iff, ?_, h.pruned, mem_categories_iff h,
    Std.TreeMap.nodup_keys, ?_, sum_sizes h⟩
  · intro id hid
    rw [Std.TreeMap.mem_iff_isSome_getElem?, Option.isSome_iff_exists] at hid
    obtain ⟨r, hr⟩ := hid
    refine ⟨r.category, (h.listed_iff r.category id).mpr ⟨r, hr, rfl⟩, ?_⟩
    intro category hlisted
    obtain ⟨s, hs, hcat⟩ := (h.listed_iff category id).mp hlisted
    rw [hr] at hs
    cases hs
    exact hcat.symm
  · intro category
    rw [categoryIds?, Option.map_eq_none_iff, index_eq_none_iff h]

end CatalogReplica.Cache
