/-
# CatalogReplica.Service -- writing and reading records

A write goes to the authoritative store first, and the matching change is then
published, so that the caches of all nodes follow. A write whose change could
not be published fails, although the store has taken it; repeating it publishes
it again. Reads are answered from the cache alone.
-/
import CatalogReplica.Cache
import CatalogReplica.Change
import CatalogReplica.EntryId
import CatalogReplica.Store

namespace CatalogReplica.Service

/-! ## Writing -/

/-- A write that a caller asks for. -/
inductive Write where
  | create (draft : Draft)
  | update (id : String) (draft : Draft)
  | delete (id : String)
  deriving DecidableEq

/-- A write that the store has taken: the record as it is now, the store, and
the change to publish. -/
structure Taken where
  record : Record
  store : Store
  change : Change

/-- The store takes a write. A new record gets the given id, and the record
that was written the given time. -/
def take (s : Store) (freshId : String) (now : Timestamp) : Write → Except Failure Taken
  | .create draft => do
    let (r, s) ← s.insert freshId draft now
    .ok ⟨r, s, .upsert r⟩
  | .update id draft => do
    match ← s.replace id draft now with
    | some (r, s) => .ok ⟨r, s, .upsert r⟩
    | none => .error (.notFound (.record id))
  | .delete id =>
    match s.deactivate id now with
    | some (r, s) => .ok ⟨r, s, .delete id⟩
    | none => .error (.notFound (.record id))

/-- What a write comes to once its change has been published, or has not. -/
def answer (t : Taken) (published : Except Failure EntryId) : Except Failure Record :=
  published.map fun _ => t.record

/-! ## Reading -/

/-- The record with an id. -/
def get (c : Cache) (id : String) : Except Failure Record :=
  match c.get? id with
  | some r => .ok r
  | none => .error (.notFound (.record id))

/-- The records of a category whose names contain a text. -/
def list (c : Cache) (category query : String) (sorted : Bool) :
    Except Failure (List Record) :=
  match c.query? category query sorted with
  | some rs => .ok rs
  | none => .error (.notFound (.category category))

end CatalogReplica.Service
