/-
# CatalogReplica.Change.Json -- changes as JSON

The wire form of a change:

    { "type": .., "method": "upsert" | "delete", "catalog": {..}, "timestamp": .. }

`catalog` is left out when there is no record. On reading, `type` and `method`
must be there, the record may also be spelled as absent, and the timestamp has
a default.
-/
import CatalogReplica.Change
import CatalogReplica.Record.Json

namespace CatalogReplica

open Json

namespace Domain

/-- Reads a domain. -/
def read : Reader Domain := fun s => (readString s).map fun (name, rest) => (⟨name⟩, rest)

end Domain

namespace Action

/-- The actions by their names. -/
def known : List (String × Action) := [("upsert", .upsert), ("delete", .delete)]

/-- Reads an action. -/
def read : Reader Action := readChoice known

end Action

namespace Change

/-! ## Reading -/

/-- The members of a change that have been read. -/
structure Parts where
  domain : Option Domain := none
  action : Option Action := none
  record : Option (Option Record) := none
  timestamp : Option Timestamp := none

/-- The change with these members. -/
def Parts.change (p : Parts) : Change where
  domain := p.domain.getD .catalogs
  action := p.action.getD .upsert
  record := p.record.getD none
  timestamp := p.timestamp.getD .epoch

/-- The form of a change. -/
def shape : Shape Parts Change where
  name := "Operation"
  members := [
    .of "type" true (·.domain) (fun p x => { p with domain := some x }) Domain.read,
    .of "method" true (·.action) (fun p x => { p with action := some x }) Action.read,
    .of "catalog" false (·.record) (fun p x => { p with record := some x })
      (readOptional Record.read),
    .of "timestamp" false (·.timestamp) (fun p x => { p with timestamp := some x }) readTimestamp]
  start := {}
  finish := Parts.change

/-- Reads a change. -/
def read : Reader Change := shape.read

/-- The change that octets spell. -/
def ofOctets (s : Octets) : Except Fault Change := readWhole read s

/-! ## Writing -/

/-- The members of a change as they are written. -/
def written (c : Change) : List Written :=
  [("type", stringChars c.domain.name), ("method", stringChars c.action.name)] ++
    (match c.record with
      | some r => [("catalog", r.chars)]
      | none => []) ++
    [("timestamp", stringChars c.timestamp.text)]

/-- The characters of a change. -/
def chars (c : Change) : List Char := objectChars c.written

/-- The JSON text of a change. -/
def json (c : Change) : String := String.ofList c.chars

end Change
end CatalogReplica
