/-
# CatalogReplica.Change -- changes to records

A change is the unit the queue carries: what happens to which record, in which
domain. Only the domain of the catalogs exists so far; the type stays open, so
that changes of new domains can be published before every node knows them.
A change without a record is one that nobody has to act on.
-/
import CatalogReplica.Record

namespace CatalogReplica

/-- The domain a change belongs to. -/
structure Domain where
  name : String
  deriving DecidableEq, Inhabited

namespace Domain

/-- The domain of the catalogs. -/
def catalogs : Domain := ⟨"catalogs"⟩

/-- Whether a domain is that of the catalogs. -/
def isCatalogs (d : Domain) : Bool := d == catalogs

end Domain

/-- What a change does to its record. -/
inductive Action where
  /-- Create or replace the record. -/
  | upsert
  /-- Remove the record. -/
  | delete
  deriving DecidableEq, Inhabited

namespace Action

/-- The name of an action. -/
def name : Action → String
  | upsert => "upsert"
  | delete => "delete"

end Action

/-- A change to a record. -/
structure Change where
  domain : Domain
  action : Action
  record : Option Record
  /-- When the change was published. -/
  timestamp : Timestamp
  deriving DecidableEq, Inhabited

namespace Change

/-- The change that stores a record. -/
def upsert (record : Record) : Change := ⟨.catalogs, .upsert, some record, .epoch⟩

/-- The change that removes a record; only the id travels. -/
def delete (id : String) : Change := ⟨.catalogs, .delete, some (.ofId id), .epoch⟩

/-- The id of the record, if there is one. -/
def recordId? (c : Change) : Option String := c.record.map (·.id)

/-- The same change, published at a given time. -/
def publishedAt (c : Change) (time : Timestamp) : Change := { c with timestamp := time }

end Change
end CatalogReplica
