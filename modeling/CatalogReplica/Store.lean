/-
# CatalogReplica.Store -- the authoritative store

The store owns the records. It never drops one: a deleted record stays and is
no longer active. A write that fails leaves the store as it was.
-/
import CatalogReplica.Draft
import Std.Data.TreeMap

namespace CatalogReplica

/-- The authoritative store: records by id. -/
structure Store where
  records : Std.TreeMap String Record

namespace Store

/-- The store without records. -/
def empty : Store := ⟨∅⟩

/-- The store with these records, as they are; of two with one id the later
counts. -/
def ofList (rs : List Record) : Store :=
  ⟨rs.foldl (fun m r => m.insert r.id r) ∅⟩

/-- The record with an id. -/
def get? (s : Store) (id : String) : Option Record := s.records[id]?

/-- Number of records. -/
def size (s : Store) : Nat := s.records.size

/-- Every record, in the order of ids, or those of one category. -/
def scan (s : Store) (category : Option String) : List Record :=
  s.records.values.filter fun r => category.all (· == r.category)

/-- Replaces or adds one record under its id. -/
def put (s : Store) (r : Record) : Store := ⟨s.records.insert r.id r⟩

/-- Stores a new record under a fresh id. -/
def insert (s : Store) (id : String) (d : Draft) (now : Timestamp) :
    Except Failure (Record × Store) := do
  d.validate
  let r := d.record id now
  .ok (r, s.put r)

/-- Replaces the content of a record. Nothing is returned where there is no
record with this id. -/
def replace (s : Store) (id : String) (d : Draft) (now : Timestamp) :
    Except Failure (Option (Record × Store)) := do
  d.validate
  match s.get? id with
  | none => .ok none
  | some r =>
    let r := d.onto r now
    .ok (some (r, ⟨s.records.insert id r⟩))

/-- Marks a record as deleted. -/
def deactivate (s : Store) (id : String) (now : Timestamp) : Option (Record × Store) :=
  (s.get? id).map fun r =>
    let r := { r with active := false, updatedAt := now }
    (r, ⟨s.records.insert id r⟩)

end Store
end CatalogReplica
