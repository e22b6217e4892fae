/-
# CatalogReplica.Stream.Claim -- the reply to a claim

The reply to a claim is a list of a cursor, from which the next claim goes on,
and the claimed entries. An entry is a list of an id and its fields; one that
was deleted in the meantime is absent and passed over.
-/
import CatalogReplica.Stream.Entry

namespace CatalogReplica

/-- What a claim found. -/
structure Claimed where
  /-- Where the next claim starts. -/
  cursor : String
  entries : List Entry

namespace Claimed

/-- The fields of a claimed entry; they are absent where it has none. -/
def fields : Reply → Except ClaimFault Fields
  | .array items =>
    match Fields.ofAlternating? Reply.text? items ∅ with
    | some fields => .ok fields
    | none => .error .badFields
  | .nil => .ok ∅
  | _ => .error .fieldsNotList

/-- A claimed entry, if it is still there. -/
def entry : Reply → Except ClaimFault (Option Entry)
  | .array (id :: values :: _) =>
    match id.text? with
    | none => .error .idNotText
    | some id => (fields values).map fun fs => some ⟨id, fs, false⟩
  | .array _ => .error .entryIncomplete
  | .nil => .ok none
  | _ => .error .entryNotList

/-- The claimed entries that are still there. -/
def entryList : List Reply → Except ClaimFault (List Entry)
  | [] => .ok []
  | r :: rs => do
    let e ← entry r
    let es ← entryList rs
    .ok (e.toList ++ es)

/-- What a reply to a claim says. -/
def ofReply : Reply → Except ClaimFault Claimed
  | .array items => do
    let cursor ←
      match items.head?.bind Reply.text? with
      | some cursor => .ok cursor
      | none => .error .noCursor
    match items.tail.head? with
    | none | some .nil => .ok ⟨cursor, []⟩
    | some (.array entries) => (entryList entries).map fun es => ⟨cursor, es⟩
    | some _ => .error .entriesNotList
  | _ => .error .notList

end Claimed
end CatalogReplica
