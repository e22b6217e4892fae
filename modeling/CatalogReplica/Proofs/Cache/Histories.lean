/-
# CatalogReplica.Proofs.Cache.Histories -- what a history of edits comes to

A record may have been in many categories before it is where it is now, and each of its
moves lists it anew, and may add a category or prune one. None of this can be seen in the
end. A history comes to a plain map from ids to records, which an edit changes at its own
id, and a cache answers as a search through all records of this map would. So what
counts of a history is the last edit of each id.
-/
import CatalogReplica.Proofs.Cache.Answers
import CatalogReplica.Proofs.Text.OctetOrder
import Mathlib.Logic.Function.Basic

namespace CatalogReplica.Cache

/-! ## One edit -/

/-- The id that an edit is about. -/
def Edit.id : Edit → String
  | .upsert r => r.id
  | .remove id => id

/-- The record that an edit leaves under its id. -/
def Edit.leaves : Edit → Option Record
  | .upsert r => some r
  | .remove _ => none

theorem Edit.says?_eq (id : String) (e : Edit) :
    e.says? id = if e.id = id then some e.leaves else none := by
  cases e <;> rfl

theorem get?_edited_eq_update (c : Cache) (e : Edit) :
    (c.edited e).get? = Function.update c.get? e.id e.leaves := by
  funext id
  rw [get?_edited, Edit.says?_eq, Function.update_apply]
  by_cases hid : e.id = id
  · simp [hid]
  · simp [hid, Ne.symm hid]

/-! ## The last edit of each id -/

/-- The last edit of an id in a history, if there is one. -/
def lastEdit? (id : String) (es : List Edit) : Option Edit := (es.filter (·.id = id)).getLast?

theorem lastEdit?_append (id : String) (es fs : List Edit) :
    lastEdit? id (es ++ fs) = (lastEdit? id fs).or (lastEdit? id es) := by
  rw [lastEdit?, List.filter_append, List.getLast?_append]
  rfl

theorem lastEdit?_singleton (id : String) (e : Edit) :
    lastEdit? id [e] = if e.id = id then some e else none := by
  by_cases hid : e.id = id <;> simp [lastEdit?, hid]

theorem lastSaid?_eq_map (id : String) (es : List Edit) :
    lastSaid? id es = (lastEdit? id es).map Edit.leaves := by
  have hsaid : es.filterMap (Edit.says? id) = (es.filter (·.id = id)).map Edit.leaves := by
    induction es with
    | nil => rfl
    | cons e es ih =>
      rw [List.filterMap_cons, Edit.says?_eq, ih]
      by_cases hid : e.id = id <;> simp [hid]
  rw [lastSaid?, hsaid, List.getLast?_map]
  rfl

theorem alike_of_lastEdit? {c : Cache} (h : c.Consistent) {es fs : List Edit}
    (hlast : ∀ id, lastEdit? id es = lastEdit? id fs) :
    (c.afterEdits es).Alike (c.afterEdits fs) := by
  apply alike_of_get? (consistent_afterEdits h es) (consistent_afterEdits h fs)
  intro id
  rw [get?_afterEdits, get?_afterEdits, lastSaid?_eq_map, lastSaid?_eq_map, hlast]

/-- What a history leaves is decided by the last edit of each id: two histories in which
these are the same lead from one cache to caches that no question tells apart. Hence an
edit can be repeated, edits of two ids can be exchanged, and a history can begin again
after any part of it has been made. -/
theorem last_edits_decide (history : List Edit) :
    let c := empty.afterEdits history
    (∀ es fs : List Edit, (∀ id, lastEdit? id es = lastEdit? id fs) →
      (c.afterEdits es).Alike (c.afterEdits fs)) ∧
    (∀ e : Edit, ((c.edited e).edited e).Alike (c.edited e)) ∧
    (∀ d e : Edit, d.id ≠ e.id → ((c.edited d).edited e).Alike ((c.edited e).edited d)) ∧
    (∀ es fs : List Edit,
      ((c.afterEdits es).afterEdits (es ++ fs)).Alike (c.afterEdits (es ++ fs))) := by
  intro c
  have hc : c.Consistent := Reachable.consistent ⟨history, rfl⟩
  refine ⟨fun es fs => alike_of_lastEdit? hc, ?_, ?_, ?_⟩
  · intro e
    show (c.afterEdits [e, e]).Alike (c.afterEdits [e])
    apply alike_of_lastEdit? hc
    intro id
    rw [show [e, e] = [e] ++ [e] from rfl, lastEdit?_append]
    cases lastEdit? id [e] <;> rfl
  · intro d e hne
    show (c.afterEdits [d, e]).Alike (c.afterEdits [e, d])
    apply alike_of_lastEdit? hc
    intro id
    rw [show [d, e] = [d] ++ [e] from rfl, show [e, d] = [e] ++ [d] from rfl, lastEdit?_append,
      lastEdit?_append, lastEdit?_singleton, lastEdit?_singleton]
    -- no id is that of both edits
    by_cases hd : d.id = id
    · have he : ¬ e.id = id := fun he => hne (hd.trans he.symm)
      simp [hd, he]
    · simp [hd]
  · intro es fs
    rw [← afterEdits_append]
    apply alike_of_lastEdit? hc
    intro id
    rw [lastEdit?_append, lastEdit?_append]
    cases lastEdit? id fs <;> cases lastEdit? id es <;> rfl

/-- A record that visits two other categories, one of which it shares, before it comes to
rest, and another one that is removed and comes back. -/
def detour : List Edit := [
  .upsert { id := "1", category := "films", name := "Dune" },
  .upsert { id := "1", category := "games", name := "Dune" },
  .remove "2",
  .upsert { id := "1", category := "books", name := "Dune" },
  .upsert { id := "2", category := "films", name := "Alien" }]

/-- The last edits of the two records alone, in the other order. -/
def straightWay : List Edit := [
  .upsert { id := "2", category := "films", name := "Alien" },
  .upsert { id := "1", category := "books", name := "Dune" }]

theorem detour_leaves_no_trace :
    (∀ id, lastEdit? id detour = lastEdit? id straightWay) ∧
      ((empty.afterEdits [.upsert { id := "2", category := "films", name := "Heat" }]).afterEdits
        detour).Alike
      ((empty.afterEdits [.upsert { id := "2", category := "films", name := "Heat" }]).afterEdits
        straightWay) := by
  have hlast : ∀ id, lastEdit? id detour = lastEdit? id straightWay := by
    intro id
    by_cases hone : id = "1"
    · subst hone
      decide
    by_cases htwo : id = "2"
    · subst htwo
      decide
    simp [lastEdit?, detour, straightWay, Edit.id, Ne.symm hone, Ne.symm htwo]
  exact ⟨hlast, (last_edits_decide _).1 detour straightWay hlast⟩

/-! ## The plain map of a history -/

/-- What a history comes to: under each id the record that was upserted last, unless the
id was removed since. -/
def plainMap (es : List Edit) : String → Option Record :=
  es.foldl (fun records e => Function.update records e.id e.leaves) fun _ => none

theorem get?_afterEdits_eq_plainMap (es : List Edit) :
    (empty.afterEdits es).get? = plainMap es := by
  induction es using List.reverseRecOn with
  | nil =>
    funext id
    simp [get?, empty, plainMap]
  | append_singleton es e ih =>
    rw [afterEdits_append, afterEdits_cons, afterEdits_nil, get?_edited_eq_update, ih]
    simp [plainMap]

/-! ## Searching through names -/

theorem occursIn_iff (needle cs : List Char) : occursIn needle cs = true ↔ needle <:+: cs := by
  induction cs with
  | nil => simp [occursIn]
  | cons c cs ih =>
    rw [occursIn, Bool.or_eq_true, ih, List.isPrefixOf_iff_prefix, List.infix_cons_iff]

/-- A text selects all names that contain it in lower case; the empty text selects all. -/
theorem selects_iff (text name : String) :
    (text.isEmpty = false → nameContains text name = true) ↔
      text = "" ∨ lower text.toList <:+: lower name.toList := by
  rw [nameContains, occursIn_iff]
  by_cases hempty : text = ""
  · simp [hempty]
  · have hfull : text.isEmpty = false := by simpa using hempty
    simp [hempty, hfull]

/-- Whatever the history, a cache answers as a search through the plain map would. It has
no answer for a category without records. For any other it has a list of those of its
records that the text selects, each of them once, by the octets of their names if that is
asked for; and the list is there when the text selects none. -/
theorem answers_from_plainMap (es : List Edit) :
    let c := empty.afterEdits es
    let records := plainMap es
    (∀ id, c.get? id = records id) ∧
    (∀ category text sorted, c.query? category text sorted = none ↔
      ∀ id r, records id = some r → r.category ≠ category) ∧
    (∀ category text sorted rs, c.query? category text sorted = some rs →
      rs.Nodup ∧
      (∀ r, r ∈ rs ↔ ∃ id, records id = some r ∧ r.category = category ∧
        (text = "" ∨ lower text.toList <:+: lower r.name.toList)) ∧
      (sorted = true →
        rs.Pairwise fun a b => Octets.ofString a.name ≤ Octets.ofString b.name)) ∧
    (∀ category text sorted, (∃ id r, records id = some r ∧ r.category = category) →
      (∀ id r, records id = some r → r.category = category →
        ¬ (text = "" ∨ lower text.toList <:+: lower r.name.toList)) →
      c.query? category text sorted = some []) := by
  intro c records
  have hview : c.get? = records := get?_afterEdits_eq_plainMap es
  have hserves : c.Serves records := by
    rw [← hview]
    exact serves_of_consistent (Reachable.consistent ⟨es, rfl⟩)
  have hmem {category text : String} {sorted : Bool} {rs : List Record}
      (hrs : c.query? category text sorted = some rs) (r : Record) :
      r ∈ rs ↔ ∃ id, records id = some r ∧ r.category = category ∧
        (text = "" ∨ lower text.toList <:+: lower r.name.toList) := by
    rw [hserves.mem_query? hrs]
    simp only [selects_iff]
  refine ⟨hserves.get?, hserves.query?_eq_none, ?_, ?_⟩
  · intro category text sorted rs hrs
    refine ⟨hserves.nodup_query? hrs, hmem hrs, ?_⟩
    rintro rfl
    apply (hserves.sorted_query? hrs).imp
    intro a b hab
    exact (Octets.ofString_le_iff a.name b.name).mpr hab
  · rintro category text sorted ⟨id, r, hr, hcategory⟩ hnone
    cases hrs : c.query? category text sorted with
    | none => exact absurd hcategory ((hserves.query?_eq_none _ _ _).mp hrs id r hr)
    | some rs =>
      have hempty : rs = [] := by
        apply List.eq_nil_iff_forall_not_mem.mpr
        intro s hs
        obtain ⟨k, hk, hcat, hselected⟩ := (hmem hrs s).mp hs
        exact hnone k s hk hcat hselected
      rw [hempty]

end CatalogReplica.Cache
