/-
# CatalogReplica.Event -- delivered changes

An event is a change as the queue delivers it: with the position of its entry,
which is what an acknowledgement names.
-/
import CatalogReplica.Change
import CatalogReplica.EntryId
import CatalogReplica.Text.Quoted
import CatalogReplica.Time.Timestamp.Written

namespace CatalogReplica

/-- A delivered change. -/
structure Event where
  id : EntryId
  change : Change
  deriving DecidableEq, Inhabited

/-! ## How an event is shown -/

/-- A structure with named fields, as it is shown. -/
def shownFields (name : String) (fields : List (String × String)) : String :=
  let items := fields.map fun (k, v) => k ++ ": " ++ v
  name ++ " \x7b " ++ String.intercalate ", " items ++ " \x7d"

/-- A record as it is shown. -/
def Record.shown (r : Record) : String :=
  shownFields "Catalog" [
    ("id", quoted r.id),
    ("active", if r.active then "true" else "false"),
    ("category", quoted r.category),
    ("name", quoted r.name),
    ("desc", quoted r.desc),
    ("value", quoted r.value),
    ("created_at", r.createdAt.text),
    ("updated_at", r.updatedAt.text)]

/-- A change as it is shown. -/
def Change.shown (c : Change) : String :=
  shownFields "Operation" [
    ("op_type", "OperationType(" ++ quoted c.domain.name ++ ")"),
    ("method", match c.action with
      | .upsert => "Upsert"
      | .delete => "Delete"),
    ("catalog", match c.record with
      | some r => "Some(" ++ r.shown ++ ")"
      | none => "None"),
    ("timestamp", c.timestamp.text)]

/-- An entry id as it is shown. -/
def EntryId.shown (i : EntryId) : String :=
  shownFields "Sequence" [
    ("millis", String.ofList (decimal i.millis)),
    ("counter", String.ofList (decimal i.counter))]

/-- An event as it is shown; how it is acknowledged is not. -/
def Event.shown (e : Event) : String :=
  "Event \x7b operation: " ++ e.change.shown ++ ", sequence: " ++ e.id.shown ++ ", .. \x7d"

end CatalogReplica
