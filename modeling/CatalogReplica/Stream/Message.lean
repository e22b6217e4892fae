/-
# CatalogReplica.Stream.Message -- what comes over the connection

A message holds the values of a reply as they are sent. It is received as a
reply, in which the status `OK` is a value of its own; a refusal anywhere in the
message refuses the whole command, and of several the first one counts.
-/
import CatalogReplica.Stream.Command

namespace CatalogReplica

/-- A message of the log service. -/
inductive Message where
  | nil
  | int (n : Int)
  | bulk (bytes : Octets)
  | status (text : String)
  | refusal (r : Refusal)
  | array (items : List Message)
  deriving Inhabited

namespace Message

/-- A text as a message. -/
def ofString (s : String) : Message := .bulk (Octets.ofString s)

mutual

/-- The reply that a message is received as, or the refusal it holds. -/
def received : Message → Except Refusal Reply
  | nil => .ok .nil
  | int n => .ok (.int n)
  | bulk bytes => .ok (.bulk bytes)
  | status text => .ok (if text = "OK" then .okay else .simple text)
  | refusal r => .error r
  | array items => (receivedAll items).map .array

/-- The replies that messages are received as, or the first refusal in them. -/
def receivedAll : List Message → Except Refusal (List Reply)
  | [] => .ok []
  | m :: ms => do
    let r ← received m
    let rs ← receivedAll ms
    .ok (r :: rs)

end

/-- The outcome of a command that is answered by a message. -/
def outcome (m : Message) : Outcome :=
  match m.received with
  | .ok r => .answered r
  | .error r => .refused r

end Message
end CatalogReplica
