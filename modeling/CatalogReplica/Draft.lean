/-
# CatalogReplica.Draft -- what a caller says about a record

A draft holds the fields of a record that its writer chooses. Id and times are
the store's to assign.
-/
import CatalogReplica.Failure
import CatalogReplica.Record
import CatalogReplica.Text.Blank

namespace CatalogReplica

/-- The fields of a record that a caller chooses. -/
structure Draft where
  category : String
  name : String
  desc : String := ""
  value : String := ""
  active : Bool := true
  deriving DecidableEq

namespace Draft

/-- Checks that category and name are given. -/
def validate (d : Draft) : Except Failure Unit :=
  if isBlankText d.category then .error (.store .noCategory)
  else if isBlankText d.name then .error (.store .noName)
  else .ok ()

/-- A new record with this content. -/
def record (d : Draft) (id : String) (now : Timestamp) : Record where
  id := id
  active := d.active
  category := d.category
  name := d.name
  desc := d.desc
  value := d.value
  createdAt := now
  updatedAt := now

/-- A record with this content in place of its own. -/
def onto (d : Draft) (r : Record) (now : Timestamp) : Record :=
  { r with
    active := d.active
    category := d.category
    name := d.name
    desc := d.desc
    value := d.value
    updatedAt := now }

end Draft
end CatalogReplica
