/-
# CatalogReplica.Cache.Lemmas -- what the cache holds

Looking up an id is the view of the cache that everything else is stated in;
an upsert and a removal each change it at one id.
-/
import CatalogReplica.Cache

namespace CatalogReplica.Cache

/-- An upsert changes what is found under its id only. -/
theorem get?_upsert (c : Cache) (r : Record) (id : String) :
    (c.upsert r).get? id = if r.id = id then some r else c.get? id := by
  simp [get?, upsert, Std.TreeMap.getElem?_insert]

/-- A removal changes what is found under its id only. -/
theorem get?_remove (c : Cache) (id key : String) :
    (c.remove id).get? key = if id = key then none else c.get? key := by
  unfold remove get?
  split
  · rename_i h
    split
    · rename_i e; exact e ▸ h
    · rfl
  · simp [Std.TreeMap.getElem?_erase]

end CatalogReplica.Cache
