/-
# CatalogReplica.Proofs.Cache.Lookups -- many ids at once, and all of a category

Two questions are answered with lists of records: that for ids, which may be unknown or
come several times, and that for a category. They are answered apart from each other, each
by its own walk through the records, but they have to agree. What both come to is the list
of what is found under some ids. How often a record stands in it is how often its id was
asked for, whatever the order of the answer; so two lists of ids that differ in their order
alone have answers that do as well.
-/
import CatalogReplica.Proofs.Cache.Answers
import CatalogReplica.Proofs.Text.OctetOrder
import Mathlib.Data.List.Count

namespace CatalogReplica.Cache

variable {c : Cache}

/-! ## Records under some ids -/

/-- A record is found as often as its id is asked for. -/
theorem count_filterMap_get? (h : c.Consistent) (ids : List String) (r : Record) :
    (ids.filterMap c.get?).count r = if c.get? r.id = some r then ids.count r.id else 0 := by
  induction ids with
  | nil => simp
  | cons id ids ih =>
    cases hid : c.get? id with
    | none =>
      rw [List.filterMap_cons_none hid, ih]
      by_cases hr : c.get? r.id = some r
      · -- the record is there, so its id is not the one that is unknown
        have hne : id ≠ r.id := by
          rintro rfl
          simp [hid] at hr
        rw [if_pos hr, if_pos hr, List.count_cons_of_ne hne]
      · rw [if_neg hr, if_neg hr]
    | some s =>
      have hs : s.id = id := h.own hid
      rw [List.filterMap_cons_some hid]
      by_cases hsr : s = r
      · subst hsr
        have hthere : c.get? s.id = some s := by rw [hs, hid]
        rw [List.count_cons_self, ih, if_pos hthere, if_pos hthere, hs, List.count_cons_self]
      · rw [List.count_cons_of_ne hsr, ih]
        by_cases hr : c.get? r.id = some r
        · -- one id has one record
          have hne : id ≠ r.id := by
            rintro rfl
            rw [hid] at hr
            exact hsr (Option.some.inj hr)
          rw [if_pos hr, if_pos hr, List.count_cons_of_ne hne]
        · rw [if_neg hr, if_neg hr]

theorem getMany_perm (c : Cache) (ids : List String) (sorted : Bool) :
    (c.getMany ids sorted).Perm (ids.filterMap c.get?) :=
  ordered_perm sorted _

/-- A query without a text looks up the ids of the category. -/
theorem query?_empty (c : Cache) (category : String) (sorted : Bool) :
    c.query? category "" sorted = (c.categoryIds? category).map (c.getMany · sorted) := by
  rw [query?_eq_map]
  rfl

/-- The records of a list of ids: sorted or not, each of them is there as often as its id is
asked for, and no other is. The sorted list is by the octets of the names. A query without a
text has an answer exactly if the category has ids, and it is what the ids come to, in
whatever order they are taken; each record of the category stands in it once. -/
theorem lookups_agree (es : List Edit) :
    let c := empty.afterEdits es
    (∀ ids : List String,
      (c.getMany ids true).Perm (c.getMany ids false) ∧
      (∀ (sorted : Bool) (r : Record), (c.getMany ids sorted).count r =
        if c.get? r.id = some r then ids.count r.id else 0) ∧
      (c.getMany ids true).Pairwise fun a b => Octets.ofString a.name ≤ Octets.ofString b.name) ∧
    ∀ (category : String) (sorted : Bool),
      (c.query? category "" sorted = none ↔ c.categoryIds? category = none) ∧
      ∀ ids, c.categoryIds? category = some ids →
        ∃ rs, c.query? category "" sorted = some rs ∧ rs.Nodup ∧
          (∀ r, r ∈ rs ↔ c.get? r.id = some r ∧ r.category = category) ∧
          ∀ order, order.Perm ids → rs.Perm (c.getMany order sorted) := by
  intro c
  have hc : c.Consistent := Reachable.consistent ⟨es, rfl⟩
  refine ⟨fun ids => ⟨?_, ?_, ?_⟩, fun category sorted => ⟨?_, ?_⟩⟩
  · exact (getMany_perm c ids true).trans (getMany_perm c ids false).symm
  · intro sorted r
    rw [(getMany_perm c ids sorted).count_eq, count_filterMap_get? hc]
  · apply (sortByName_pairwise (ids.filterMap c.get?)).imp
    intro a b hab
    exact (Octets.ofString_le_iff a.name b.name).mpr hab
  · rw [query?_empty, Option.map_eq_none_iff]
  · intro ids hids
    obtain ⟨hnodup, hmem⟩ := records_of_ids hc hids
    have hperm := getMany_perm c ids sorted
    refine ⟨c.getMany ids sorted, ?_, hperm.nodup_iff.mpr hnodup, ?_, ?_⟩
    · rw [query?_empty, hids, Option.map_some]
    · intro r
      rw [hperm.mem_iff, hmem]
      constructor
      · rintro ⟨id, hid, hcategory⟩
        have hown : r.id = id := hc.own hid
        exact ⟨hown ▸ hid, hcategory⟩
      · rintro ⟨hid, hcategory⟩
        exact ⟨r.id, hid, hcategory⟩
    · intro order horder
      exact hperm.trans ((horder.filterMap c.get?).symm.trans (getMany_perm c order sorted).symm)

end CatalogReplica.Cache
