/-
# CatalogReplica.Proofs.Cache.Answers -- what a cache answers

Callers never see the two maps, only answers: single records, the records of a
category, the categories, and numbers of them. On a consistent cache all of
these follow from the look-ups of single ids. So a cache answers as the plain
map of its records would (`Serves`), and two caches with the same look-ups
cannot be told apart by any question at all (`Alike`).

Which record a history of edits leaves under an id is decided by the last edit
of that id, whatever came before and whatever concerned other ids.
-/
import CatalogReplica.Proofs.Cache.Index
import Mathlib.Data.List.Induction
import Mathlib.Data.List.Nodup

namespace CatalogReplica.Cache

/-! ## Two caches that answer alike -/

/-- Whatever is asked, the answers are the same. -/
structure Alike (a b : Cache) : Prop where
  get? : ∀ id, a.get? id = b.get? id
  getMany : ∀ ids sorted, a.getMany ids sorted = b.getMany ids sorted
  query? : ∀ category substring sorted,
    a.query? category substring sorted = b.query? category substring sorted
  categories : a.categories = b.categories
  categoryIds? : ∀ category, a.categoryIds? category = b.categoryIds? category
  size : a.size = b.size
  categoryCount : a.categoryCount = b.categoryCount

section Alike

variable {a b : Cache}

theorem keys_eq_of_mem_iff {α β : Type} {s : Std.TreeMap String α} {t : Std.TreeMap String β}
    (h : ∀ k, k ∈ s ↔ k ∈ t) : s.keys = t.keys := by
  have hperm : s.keys.Perm t.keys := by
    rw [List.perm_ext_iff_of_nodup Std.TreeMap.nodup_keys Std.TreeMap.nodup_keys]
    intro k
    rw [Std.TreeMap.mem_keys, Std.TreeMap.mem_keys, h]
  refine hperm.eq_of_pairwise ?_ Std.TreeMap.ordered_keys Std.TreeMap.ordered_keys
  intro k l _ _ hkl hlk
  simp [Std.OrientedCmp.gt_of_lt hkl] at hlk

theorem listed_iff_of_get? (ha : a.Consistent) (hb : b.Consistent)
    (h : ∀ id, a.get? id = b.get? id) (category id : String) :
    Listed a.index category id ↔ Listed b.index category id := by
  have hid : a.records[id]? = b.records[id]? := h id
  rw [ha.listed_iff, hb.listed_iff, hid]

theorem categoryIds?_eq_of_get? (ha : a.Consistent) (hb : b.Consistent)
    (h : ∀ id, a.get? id = b.get? id) (category : String) :
    a.categoryIds? category = b.categoryIds? category := by
  have hnone : a.index[category]? = none ↔ b.index[category]? = none := by
    rw [index_eq_none_iff ha, index_eq_none_iff hb]
    exact forall_congr' fun id => by rw [show a.records[id]? = b.records[id]? from h id]
  unfold categoryIds?
  cases hs : a.index[category]? with
  | none => rw [hnone.mp hs]
  | some s =>
    cases ht : b.index[category]? with
    | none => simp [hnone.mpr ht] at hs
    | some t =>
      have hst : s.toList = t.toList := by
        apply Std.TreeSet.Equiv.toList_eq
        refine Std.TreeSet.Equiv.of_forall_mem_iff fun id => ?_
        rw [mem_ids_iff hs, mem_ids_iff ht, listed_iff_of_get? ha hb h]
      simp [hst]

/-- A query asks for the ids of a category and looks each of them up. -/
theorem query?_eq_map (c : Cache) (category substring : String) (sorted : Bool) :
    c.query? category substring sorted = (c.categoryIds? category).map fun ids =>
      let rs := ids.filterMap c.get?
      ordered sorted <|
        if substring.isEmpty then rs else rs.filter fun r => nameContains substring r.name := by
  simp [query?, categoryIds?, Function.comp_def]

/-- Look-ups of single ids decide all other answers. -/
theorem alike_of_get? (ha : a.Consistent) (hb : b.Consistent)
    (h : ∀ id, a.get? id = b.get? id) : a.Alike b := by
  have hget : a.get? = b.get? := funext h
  have hrecords : a.records.keys = b.records.keys := by
    refine keys_eq_of_mem_iff fun id => ?_
    rw [Std.TreeMap.mem_iff_isSome_getElem?, Std.TreeMap.mem_iff_isSome_getElem?,
      show a.records[id]? = b.records[id]? from h id]
  have hindex : a.index.keys = b.index.keys := by
    refine keys_eq_of_mem_iff fun category => ?_
    have hids := categoryIds?_eq_of_get? ha hb h category
    have hsome := congrArg Option.isSome hids
    rw [categoryIds?, categoryIds?, Option.isSome_map, Option.isSome_map] at hsome
    rw [Std.TreeMap.mem_iff_isSome_getElem?, Std.TreeMap.mem_iff_isSome_getElem?, hsome]
  constructor
  case get? => exact h
  case getMany => intro ids sorted; simp [getMany, hget]
  case query? =>
    intro category substring sorted
    rw [query?_eq_map, query?_eq_map, categoryIds?_eq_of_get? ha hb h, hget]
  case categories => exact hindex
  case categoryIds? => exact categoryIds?_eq_of_get? ha hb h
  case size =>
    rw [size, size, ← Std.TreeMap.length_keys, ← Std.TreeMap.length_keys, hrecords]
  case categoryCount =>
    rw [categoryCount, categoryCount, ← Std.TreeMap.length_keys, ← Std.TreeMap.length_keys, hindex]

end Alike

/-! ## Answering as a plain map of records does -/

/-- The cache answers from a plain map of records: that of a record, all those
of a category, those of them that a text selects, and numbers of them. -/
structure Serves (c : Cache) (view : String → Option Record) : Prop where
  get? : ∀ id, c.get? id = view id
  mem_categories : ∀ category, category ∈ c.categories ↔
    ∃ id r, view id = some r ∧ r.category = category
  nodup_categories : c.categories.Nodup
  query?_eq_none : ∀ category substring sorted, c.query? category substring sorted = none ↔
    ∀ id r, view id = some r → r.category ≠ category
  mem_query? : ∀ {category substring sorted rs}, c.query? category substring sorted = some rs →
    ∀ r, r ∈ rs ↔ ∃ id, view id = some r ∧ r.category = category ∧
      (substring.isEmpty = false → nameContains substring r.name)
  nodup_query? : ∀ {category substring sorted rs},
    c.query? category substring sorted = some rs → rs.Nodup
  sorted_query? : ∀ {category substring rs}, c.query? category substring true = some rs →
    rs.Pairwise fun a b => a.name ≤ b.name
  size : ∀ ids : List String, ids.Nodup → (∀ id, id ∈ ids ↔ (view id).isSome) →
    c.size = ids.length

section Serves

variable {c : Cache}

theorem ordered_perm (sorted : Bool) (rs : List Record) : (ordered sorted rs).Perm rs := by
  cases sorted with
  | false => exact List.Perm.refl rs
  | true => exact List.mergeSort_perm rs _

theorem name_le_iff (a b : Record) : (compare a.name b.name != .gt) = true ↔ a.name ≤ b.name := by
  have hle : (compare a.name b.name).isLE = true ↔ a.name ≤ b.name :=
    isLE_compareOfLessAndEq String.le_antisymm String.not_le String.le_total
  rw [← hle]
  cases compare a.name b.name <;> decide

theorem sortByName_pairwise (rs : List Record) :
    (sortByName rs).Pairwise fun a b => a.name ≤ b.name := by
  have h := @List.pairwise_mergeSort _ (fun a b : Record => compare a.name b.name != .gt) ?_ ?_ rs
  · exact h.imp fun hab => (name_le_iff _ _).mp hab
  · intro a b d hab hbd
    rw [name_le_iff] at hab hbd ⊢
    exact String.le_trans hab hbd
  · intro a b
    rw [Bool.or_eq_true, name_le_iff, name_le_iff]
    exact String.le_total a.name b.name

/-- The ids listed under a category, each of them once. -/
theorem categoryIds?_eq_some (h : c.Consistent) {category : String} {ids : List String}
    (hids : c.categoryIds? category = some ids) :
    ids.Nodup ∧ ∀ id, id ∈ ids ↔ ∃ r, c.get? id = some r ∧ r.category = category := by
  obtain ⟨s, hs, rfl⟩ := Option.map_eq_some_iff.mp hids
  refine ⟨Std.TreeSet.distinct_toList.imp Std.ReflCmp.ne_of_cmp_ne_eq, fun id => ?_⟩
  rw [Std.TreeSet.mem_toList, mem_ids_iff hs]
  exact h.listed_iff category id

/-- The records found under the ids of a category, each of them once. -/
theorem records_of_ids (h : c.Consistent) {category : String} {ids : List String}
    (hids : c.categoryIds? category = some ids) :
    (ids.filterMap c.get?).Nodup ∧
      ∀ r, r ∈ ids.filterMap c.get? ↔ ∃ id, c.get? id = some r ∧ r.category = category := by
  obtain ⟨hnodup, hmem⟩ := categoryIds?_eq_some h hids
  constructor
  · refine hnodup.filterMap fun k l r hk hl => ?_
    exact (h.own hk).symm.trans (h.own hl)
  · intro r
    rw [List.mem_filterMap]
    constructor
    · rintro ⟨id, hid, hr⟩
      obtain ⟨s, hs, hcat⟩ := (hmem id).mp hid
      rw [hr] at hs
      cases hs
      exact ⟨id, hr, hcat⟩
    · rintro ⟨id, hr, hcat⟩
      exact ⟨id, (hmem id).mpr ⟨r, hr, hcat⟩, hr⟩

/-- What a query comes to before it is put into order. -/
theorem query?_eq_some (h : c.Consistent) {category substring : String} {sorted : Bool}
    {rs : List Record} (hrs : c.query? category substring sorted = some rs) :
    ∃ found : List Record, rs = ordered sorted found ∧ found.Nodup ∧
      ∀ r, r ∈ found ↔ ∃ id, c.get? id = some r ∧ r.category = category ∧
        (substring.isEmpty = false → nameContains substring r.name) := by
  rw [query?_eq_map] at hrs
  obtain ⟨ids, hids, rfl⟩ := Option.map_eq_some_iff.mp hrs
  obtain ⟨hnodup, hmem⟩ := records_of_ids h hids
  refine ⟨_, rfl, ?_, fun r => ?_⟩
  · split
    · exact hnodup
    · exact hnodup.filter _
  · cases hsub : substring.isEmpty with
    | true => simpa using hmem r
    | false =>
      simp only [Bool.false_eq_true, ↓reduceIte, List.mem_filter, hmem r, forall_const]
      constructor
      · rintro ⟨⟨id, hr, hcat⟩, hname⟩
        exact ⟨id, hr, hcat, hname⟩
      · rintro ⟨id, hr, hcat, hname⟩
        exact ⟨⟨id, hr, hcat⟩, hname⟩

/-- A consistent cache answers from the map of its look-ups. -/
theorem serves_of_consistent (h : c.Consistent) : c.Serves c.get? where
  get? _ := rfl
  mem_categories := mem_categories_iff h
  nodup_categories := Std.TreeMap.nodup_keys
  query?_eq_none := by
    intro category substring sorted
    rw [query?_eq_map, Option.map_eq_none_iff, categoryIds?, Option.map_eq_none_iff,
      index_eq_none_iff h]
    rfl
  mem_query? := by
    intro category substring sorted rs hrs r
    obtain ⟨found, rfl, -, hmem⟩ := query?_eq_some h hrs
    rw [(ordered_perm sorted found).mem_iff, hmem]
  nodup_query? := by
    intro category substring sorted rs hrs
    obtain ⟨found, rfl, hnodup, -⟩ := query?_eq_some h hrs
    exact (ordered_perm sorted found).nodup_iff.mpr hnodup
  sorted_query? := by
    intro category substring rs hrs
    obtain ⟨found, rfl, -, -⟩ := query?_eq_some h hrs
    exact sortByName_pairwise found
  size := by
    intro ids hnodup hids
    have hperm : c.records.keys.Perm ids := by
      rw [List.perm_ext_iff_of_nodup Std.TreeMap.nodup_keys hnodup]
      intro id
      rw [Std.TreeMap.mem_keys, Std.TreeMap.mem_iff_isSome_getElem?, hids]
      rfl
    rw [Cache.size, ← Std.TreeMap.length_keys, hperm.length_eq]

end Serves

/-! ## The last edit of an id decides -/

/-- What an edit says about an id: nothing, or which record is found under it
afterwards, if any. -/
def Edit.says? (id : String) : Edit → Option (Option Record)
  | .upsert r => if r.id = id then some (some r) else none
  | .remove k => if k = id then some none else none

/-- What the last edit of an id says about it. -/
def lastSaid? (id : String) (es : List Edit) : Option (Option Record) :=
  (es.filterMap (Edit.says? id)).getLast?

theorem get?_edited (c : Cache) (e : Edit) (id : String) :
    (c.edited e).get? id = (e.says? id).getD (c.get? id) := by
  cases e with
  | upsert r =>
    rw [edited, get?_upsert, Edit.says?]
    split <;> rfl
  | remove k =>
    rw [edited, get?_remove, Edit.says?]
    split <;> rfl

theorem lastSaid?_append (id : String) (es fs : List Edit) :
    lastSaid? id (es ++ fs) = (lastSaid? id fs).or (lastSaid? id es) := by
  rw [lastSaid?, List.filterMap_append, List.getLast?_append]
  rfl

/-- A record is only ever said to be there by an upsert of it. -/
theorem upsert_mem_of_lastSaid? {id : String} {es : List Edit} {x : Record}
    (h : lastSaid? id es = some (some x)) : .upsert x ∈ es ∧ x.id = id := by
  obtain ⟨e, he, htold⟩ := List.mem_filterMap.mp (List.mem_of_getLast? h)
  cases e with
  | upsert r =>
    rw [Edit.says?] at htold
    split at htold
    · rename_i hid
      cases htold
      exact ⟨he, hid⟩
    · cases htold
  | remove k =>
    rw [Edit.says?] at htold
    split at htold <;> cases htold

/-- An id is found as its last edit left it. -/
theorem get?_afterEdits (c : Cache) (es : List Edit) (id : String) :
    (c.afterEdits es).get? id = (lastSaid? id es).getD (c.get? id) := by
  induction es using List.reverseRecOn with
  | nil => rfl
  | append_singleton es e ih =>
    rw [afterEdits_append, afterEdits_cons, afterEdits_nil, get?_edited, ih, lastSaid?_append]
    cases h : e.says? id <;> simp [lastSaid?, h]

end CatalogReplica.Cache
