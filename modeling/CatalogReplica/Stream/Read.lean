/-
# CatalogReplica.Stream.Read -- the reply to a read

The reply to a read is absent when nothing came, and otherwise a list of rows.
A row pairs the key of a stream with its entries, an entry pairs an id with its
fields, and the fields pair names with values. Every level may be absent, which
is the same as empty, and where a key comes again on one level its last value
counts. The whole reply has to be of this form; only its first entry is used.
-/
import CatalogReplica.Stream.Entry

namespace CatalogReplica.ReadReply

/-- Keeps the last value under each key, in the order of the keys. -/
def lastValues {α : Type} : List (String × α) → List (String × α)
  | [] => []
  | (k, a) :: rest =>
    let rest := lastValues rest
    match rest.lookup k with
    | some b => (k, b) :: rest.filter (·.1 != k)
    | none => (k, a) :: rest

/-- The pairs in a list in which keys and values alternate. -/
def alternating? {α : Type} (value? : Reply → Option α) :
    List Reply → Option (List (String × α))
  | [] => some []
  | [_] => none
  | k :: v :: rest => do
    let k ← k.textLike?
    let v ← value? v
    let rest ← alternating? value? rest
    some ((k, v) :: rest)

/-- The pairs of a value that is a map or absent. -/
def pairs? {α : Type} (value? : Reply → Option α) : Reply → Option (List (String × α))
  | .nil => some []
  | .array items => (alternating? value? items).map lastValues
  | _ => none

/-- The items of a value that is a list or absent. -/
def items? {α : Type} (item? : Reply → Option α) : Reply → Option (List α)
  | .nil => some []
  | .array items => items.mapM item?
  | _ => none

/-- The fields of an entry. -/
def fields? : Reply → Option Fields
  | .nil => some ∅
  | .array items => Fields.ofAlternating? Reply.textLike? items ∅
  | _ => none

/-- The first entry of a reply to a read, if there is one. The reply may also
not be of the right form. -/
def entry? (r : Reply) : Option (Option Entry) := do
  let rows ← items? (pairs? (items? (pairs? fields?))) r
  let found := (rows.flatten.map (·.2)).flatten.flatten
  some (found.head?.map fun (id, fields) => ⟨id, fields, false⟩)

end CatalogReplica.ReadReply
