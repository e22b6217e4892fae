/-
# CatalogReplica.Record.Json -- records as JSON

The members of a record and their order. Written, all eight are there; read,
each of them may be missing and then has its default.
-/
import CatalogReplica.Json.Shape
import CatalogReplica.Record
import CatalogReplica.Time.Timestamp.Reader
import CatalogReplica.Time.Timestamp.Written

namespace CatalogReplica

namespace Json

/-- Reads a timestamp, which JSON has as a text. -/
def readTimestamp : Reader Timestamp := fun s => do
  let (text, rest) ← readText "an RFC 3339 formatted date and time string" s
  match Timestamp.read text with
  | .ok t => .ok (t, rest)
  | .error fault => .error (.unacceptable fault.message)

/-- The text of a boolean. -/
def boolChars (b : Bool) : List Char := (if b then "true" else "false").toList

/-- A member as it is written: its key and its value. -/
abbrev Written := String × List Char

/-- The written form of an object. -/
def objectChars (members : List Written) : List Char :=
  Char.ofNat 0x7B ::
    ((members.map fun (key, value) => stringChars key ++ ':' :: value).intersperse [',']).flatten ++
      [Char.ofNat 0x7D]

/-- The written form of a list. -/
def listChars (values : List (List Char)) : List Char :=
  '[' :: (values.intersperse [',']).flatten ++ [']']

end Json

namespace Record

open Json

/-! ## Reading -/

/-- The members of a record that have been read. -/
structure Parts where
  id : Option String := none
  active : Option Bool := none
  category : Option String := none
  name : Option String := none
  desc : Option String := none
  value : Option String := none
  createdAt : Option Timestamp := none
  updatedAt : Option Timestamp := none

/-- The record with these members and defaults for the others. -/
def Parts.record (p : Parts) : Record where
  id := p.id.getD ""
  active := p.active.getD false
  category := p.category.getD ""
  name := p.name.getD ""
  desc := p.desc.getD ""
  value := p.value.getD ""
  createdAt := p.createdAt.getD .epoch
  updatedAt := p.updatedAt.getD .epoch

/-- The form of a record. -/
def shape : Shape Parts Record where
  name := "Catalog"
  members := [
    .of "id" false (·.id) (fun p x => { p with id := some x }) readString,
    .of "active" false (·.active) (fun p x => { p with active := some x }) readBool,
    .of "category" false (·.category) (fun p x => { p with category := some x }) readString,
    .of "name" false (·.name) (fun p x => { p with name := some x }) readString,
    .of "desc" false (·.desc) (fun p x => { p with desc := some x }) readString,
    .of "value" false (·.value) (fun p x => { p with value := some x }) readString,
    .of "created_at" false (·.createdAt) (fun p x => { p with createdAt := some x }) readTimestamp,
    .of "updated_at" false (·.updatedAt) (fun p x => { p with updatedAt := some x }) readTimestamp]
  start := {}
  finish := Parts.record

/-- Reads a record. -/
def read : Reader Record := shape.read

/-- The record that octets spell. -/
def ofOctets (s : Octets) : Except Fault Record := readWhole read s

/-! ## Writing -/

/-- The members of a record as they are written. -/
def written (r : Record) : List Written := [
  ("id", stringChars r.id),
  ("active", boolChars r.active),
  ("category", stringChars r.category),
  ("name", stringChars r.name),
  ("desc", stringChars r.desc),
  ("value", stringChars r.value),
  ("created_at", stringChars r.createdAt.text),
  ("updated_at", stringChars r.updatedAt.text)]

/-- The characters of a record. -/
def chars (r : Record) : List Char := objectChars r.written

/-- The JSON text of a record. -/
def json (r : Record) : String := String.ofList r.chars

end Record
end CatalogReplica
