/-
# CatalogReplica.Proofs.Store.Records -- what the authoritative store holds

A store is seen through its look-ups. Writing a record changes what is found under one id,
and a scan lists what is found under all of them. Where every record is kept under its own
id, a scan has one record for each id, in the order of the octets of the ids.
-/
import CatalogReplica.Proofs.Text.OctetOrder
import CatalogReplica.Store

namespace CatalogReplica

/-! ## Drafts -/

/-- Why a draft is not valid, if it is not. -/
def Draft.fault? (d : Draft) : Option Failure :=
  if isBlankText d.category then some (.store .noCategory)
  else if isBlankText d.name then some (.store .noName)
  else none

theorem Draft.validate_eq (d : Draft) :
    d.validate = match d.fault? with
      | some f => .error f
      | none => .ok () := by
  unfold validate fault?
  split
  · rfl
  · split
    · rfl
    · rfl

/-- A draft is refused for what it lacks. -/
theorem Draft.fault?_eq_some_iff {d : Draft} {f : Failure} : d.fault? = some f ↔
    (isBlankText d.category = true ∧ f = .store .noCategory) ∨
      (isBlankText d.category = false ∧ isBlankText d.name = true ∧ f = .store .noName) := by
  unfold fault?
  cases isBlankText d.category <;> cases isBlankText d.name <;> simp [eq_comm]

theorem Draft.fault?_eq_none_iff {d : Draft} :
    d.fault? = none ↔ isBlankText d.category = false ∧ isBlankText d.name = false := by
  unfold fault?
  cases isBlankText d.category <;> cases isBlankText d.name <;> simp

namespace Store

/-! ## Look-ups -/

theorem get?_empty (id : String) : Store.empty.get? id = none := by
  unfold get? empty
  exact Std.TreeMap.getElem?_emptyc

theorem get?_insert (s : Store) (key : String) (r : Record) (id : String) :
    (Store.mk (s.records.insert key r)).get? id = if key = id then some r else s.get? id := by
  simp [get?, Std.TreeMap.getElem?_insert]

theorem size_insert (s : Store) (key : String) (r : Record) :
    (Store.mk (s.records.insert key r)).size =
      if (s.get? key).isSome then s.size else s.size + 1 := by
  unfold size get?
  rw [Std.TreeMap.size_insert, Std.TreeMap.contains_eq_isSome_getElem?]

/-! ## Records as they are -/

/-- Storing records as they are keeps every record under its own id. -/
theorem own_foldl (rs : List Record) {m : Std.TreeMap String Record}
    (hm : ∀ (id : String) (r : Record), m[id]? = some r → r.id = id) (id : String) (r : Record)
    (h : (rs.foldl (fun m r => m.insert r.id r) m)[id]? = some r) : r.id = id := by
  induction rs generalizing m with
  | nil => exact hm id r h
  | cons x rs ih =>
    refine ih (m := m.insert x.id x) (fun key y hy => ?_) h
    rw [Std.TreeMap.getElem?_insert] at hy
    split at hy
    · rename_i hkey
      cases hy
      exact Std.LawfulEqOrd.eq_of_compare hkey
    · exact hm key y hy

theorem own_ofList (rs : List Record) {id : String} {r : Record}
    (h : (ofList rs).get? id = some r) : r.id = id := by
  refine own_foldl rs (m := ∅) (fun key x hx => ?_) id r h
  rw [Std.TreeMap.getElem?_emptyc] at hx
  cases hx

/-- The ids of the records that were stored are the ids under which there is one. -/
theorem isSome_foldl (rs : List Record) (m : Std.TreeMap String Record) (id : String) :
    (rs.foldl (fun m r => m.insert r.id r) m)[id]?.isSome = true ↔
      id ∈ rs.map (·.id) ∨ m[id]?.isSome = true := by
  induction rs generalizing m with
  | nil => simp
  | cons x rs ih =>
    rw [List.foldl_cons, ih, Std.TreeMap.getElem?_insert]
    by_cases hid : x.id = id
    · simp [hid]
    · simp [hid, Ne.symm hid]

theorem isSome_ofList (rs : List Record) (id : String) :
    ((ofList rs).get? id).isSome = true ↔ id ∈ rs.map (·.id) := by
  have h := isSome_foldl rs ∅ id
  rw [Std.TreeMap.getElem?_emptyc] at h
  exact h.trans (by simp)

/-! ## Scans -/

/-- Stores that answer alike hold the same records. -/
theorem scan_eq_of_get?_eq {s t : Store} (h : ∀ id, s.get? id = t.get? id)
    (category : Option String) : s.scan category = t.scan category := by
  have hequiv : s.records.Equiv t.records := .of_forall_constGet?_eq h
  unfold scan
  rw [hequiv.values_eq]

/-- A scan lists the records in the order of the ids that they are kept under. -/
theorem scan_eq_map (s : Store) : s.scan none = s.records.toList.map Prod.snd := by
  have hall : s.scan none = s.records.values := List.filter_eq_self.mpr fun _ _ => rfl
  have hvalues : s.records.values = s.records.foldr (fun _ r rs => r :: rs) [] := rfl
  rw [hall, hvalues, Std.TreeMap.foldr_eq_foldr_toList, ← List.map_eq_foldr]

/-- A scan finds the records that can be looked up. -/
theorem mem_scan {s : Store} {x : Record} : x ∈ s.scan none ↔ ∃ id, s.get? id = some x := by
  rw [scan_eq_map, List.mem_map]
  constructor
  · rintro ⟨⟨id, y⟩, hmem, rfl⟩
    exact ⟨id, Std.TreeMap.mem_toList_iff_getElem?_eq_some.mp hmem⟩
  · rintro ⟨id, hid⟩
    exact ⟨(id, x), Std.TreeMap.mem_toList_iff_getElem?_eq_some.mpr hid, rfl⟩

/-- A scan of one category leaves out the records of the others. -/
theorem scan_some (s : Store) (category : String) :
    s.scan (some category) = (s.scan none).filter fun r => r.category = category := by
  unfold scan
  rw [List.filter_filter]
  apply List.filter_congr
  intro r _
  have hsymm : (category == r.category) = decide (r.category = category) := by
    rw [Bool.beq_eq_decide_eq]
    exact decide_eq_decide.mpr eq_comm
  simpa using hsymm

section Own

variable {s : Store} (hown : ∀ {id : String} {r : Record}, s.get? id = some r → r.id = id)

include hown

theorem mem_scan_iff_get? {r : Record} : r ∈ s.scan none ↔ s.get? r.id = some r := by
  rw [mem_scan]
  constructor
  · rintro ⟨id, hid⟩
    rw [hown hid]
    exact hid
  · exact fun h => ⟨r.id, h⟩

theorem mem_ids_scan {id : String} :
    id ∈ (s.scan none).map (·.id) ↔ (s.get? id).isSome = true := by
  rw [List.mem_map, Option.isSome_iff_exists]
  constructor
  · rintro ⟨r, hr, rfl⟩
    exact ⟨r, (mem_scan_iff_get? hown).mp hr⟩
  · rintro ⟨r, hr⟩
    exact ⟨r, mem_scan.mpr ⟨id, hr⟩, hown hr⟩

/-- The ids of a scan rise, octet by octet. -/
theorem scan_pairwise :
    (s.scan none).Pairwise fun a b => Octets.ofString a.id < Octets.ofString b.id := by
  rw [scan_eq_map, List.pairwise_map]
  apply (Std.TreeMap.ordered_keys_toList (t := s.records)).imp_of_mem
  intro x y hx hy hlt
  have hfirst : x.2.id = x.1 := hown (Std.TreeMap.mem_toList_iff_getElem?_eq_some.mp hx)
  have hsecond : y.2.id = y.1 := hown (Std.TreeMap.mem_toList_iff_getElem?_eq_some.mp hy)
  rw [hfirst, hsecond, Octets.ofString_lt_iff]
  exact compareOfLessAndEq_eq_lt.mp hlt

end Own

end Store
end CatalogReplica
