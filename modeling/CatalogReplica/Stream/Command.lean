/-
# CatalogReplica.Stream.Command -- what is asked of the log service

The log is one stream of entries. Every node is a group of its own with a
single consumer, both named after the node, so that every node sees every
entry. An entry carries one field, the payload, which holds a change.
-/
import CatalogReplica.EntryId
import CatalogReplica.Failure

namespace CatalogReplica

/-- The field of an entry that holds the change. -/
def payloadField : String := "payload"

/-- A command to the log service. -/
inductive Command where
  /-- Create the group of a node, and the stream if there is none. -/
  | createGroup (key nodeId : String)
  /-- Move the position of the group; without an id, to the beginning. -/
  | position (key nodeId : String) (id : Option EntryId)
  /-- Claim one entry that has stayed unacknowledged, looking from a cursor on. -/
  | claim (key nodeId : String) (minIdle : Nat) (cursor : String)
  /-- Wait for one entry that was never delivered. -/
  | read (key nodeId : String) (block : Nat)
  | acknowledge (key nodeId : String) (id : EntryId)
  /-- Append an entry. -/
  | append (key payload : String)
  deriving DecidableEq

namespace Command

/-- The name of a command, as it appears in failures. -/
def name : Command → String
  | createGroup .. => "XGROUP CREATE"
  | position .. => "XGROUP SETID"
  | claim .. => "XAUTOCLAIM"
  | read .. => "XREADGROUP"
  | acknowledge .. => "XACK"
  | append .. => "XADD"

/-- The text of a number. -/
def numeral (n : Nat) : String := String.ofList (decimal n)

/-- The words of a command, as they are sent. -/
def words : Command → List String
  | createGroup key node => ["XGROUP", "CREATE", key, node, "0", "MKSTREAM"]
  | position key node id =>
    ["XGROUP", "SETID", key, node, match id with
      | some i => i.text
      | none => "0"]
  | claim key node minIdle cursor =>
    ["XAUTOCLAIM", key, node, node, numeral minIdle, cursor, "COUNT", "1"]
  | read key node block =>
    ["XREADGROUP", "GROUP", node, node, "BLOCK", numeral block, "COUNT", "1", "STREAMS", key, ">"]
  | acknowledge key node id => ["XACK", key, node, id.text]
  | append key payload => ["XADD", key, "*", payloadField, payload]

end Command

/-! ## Outcomes -/

/-- What becomes of a command. -/
inductive Outcome where
  | answered (reply : Reply)
  | refused (refusal : Refusal)
  /-- The connection broke before an answer came. -/
  | lost (reason : String)

namespace Outcome

/-- The reply to a command, or the failure of the operation it belongs to. -/
def reply (operation : String) : Outcome → Except Failure Reply
  | answered r => .ok r
  | refused r => .error (.service operation (.refused r))
  | lost reason => .error (.service operation (.transport reason))

/-- The value read off the reply, or the failure of the operation. -/
def value {α : Type} (operation : String) (read : Reply → Option α) (o : Outcome) :
    Except Failure α := do
  match read (← o.reply operation) with
  | some a => .ok a
  | none => .error (.service operation .replyType)

end Outcome

/-! ## Replies with a single value -/

namespace Reply

/-- The text of a value that can stand for one. -/
def textLike? : Reply → Option String
  | bulk bytes => Octets.text? bytes
  | simple s => some s
  | okay => some "OK"
  | int n => some (String.ofList (signedDecimal n))
  | verbatim s => some s
  | _ => none

/-- The count that a text names. -/
def countOfText? (s : String) : Option Nat :=
  match s.toList with
  | '+' :: cs => natBelow? word cs
  | cs => natBelow? word cs

/-- The count that a reply gives: any integer, or a text that names one. -/
def count? : Reply → Option Int
  | int n => some n
  | simple s => (countOfText? s).map Int.ofNat
  | bulk bytes => do some (Int.ofNat (← countOfText? (← Octets.text? bytes)))
  | _ => none

end Reply
end CatalogReplica
