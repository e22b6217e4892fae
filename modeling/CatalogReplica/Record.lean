/-
# CatalogReplica.Record -- catalog records

A record is owned by the authoritative store, which assigns its id. Every
field has a default, so that a change that only needs to name a record can
carry one with nothing but its id.
-/
import CatalogReplica.Time.Timestamp

namespace CatalogReplica

/-- A catalog record. -/
structure Record where
  id : String := ""
  /-- A record that was deleted stays in the store and is no longer active. -/
  active : Bool := false
  category : String := ""
  name : String := ""
  desc : String := ""
  value : String := ""
  createdAt : Timestamp := .epoch
  updatedAt : Timestamp := .epoch
  deriving DecidableEq, Inhabited

namespace Record

/-- A record that carries its id only. -/
def ofId (id : String) : Record := ⟨id, false, "", "", "", "", .epoch, .epoch⟩

end Record
end CatalogReplica
