/-
# CatalogReplica.Stream.Entry -- entries of the log

An entry has an id and fields. It comes as it was sent, with any id and any
fields, and is decoded into the position and the change it holds.
-/
import CatalogReplica.Change.Json
import CatalogReplica.Stream.Command
import Std.Data.TreeMap

namespace CatalogReplica

/-- The fields of an entry by name. -/
abbrev Fields := Std.TreeMap String Reply

/-- An entry of the log as it came. -/
structure Entry where
  id : String
  fields : Fields
  /-- Claimed again after it had stayed unacknowledged. -/
  redelivered : Bool

namespace Fields

/-- The fields in a list in which names and values alternate; of a name that
comes again the last value counts. -/
def ofAlternating? (name? : Reply → Option String) : List Reply → Fields → Option Fields
  | [], fields => some fields
  | [_], _ => none
  | name :: value :: rest, fields => do
    ofAlternating? name? rest (fields.insert (← name? name) value)

end Fields

namespace Entry

/-- The octets of the change. -/
def payload (fields : Fields) : Except DecodeFault Octets :=
  match fields[payloadField]? with
  | none => .error (.missingField payloadField)
  | some (.bulk bytes) => .ok bytes
  | some (.simple s) => .ok (Octets.ofString s)
  | some value => .error (.fieldType payloadField value)

/-- The position and the change that an entry holds. -/
def decode (e : Entry) : Except DecodeFault (EntryId × Change) :=
  match EntryId.read? e.id with
  | none => .error (.entryId e.id)
  | some id => do
    let bytes ← payload e.fields
    match Change.ofOctets bytes with
    | .ok change => .ok (id, change)
    | .error fault => .error (.payload fault)

end Entry
end CatalogReplica
