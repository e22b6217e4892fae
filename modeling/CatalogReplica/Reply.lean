/-
# CatalogReplica.Reply -- what the log service answers

Replies of the log service are nested values of a few kinds, or a refusal.
Entries come as lists in which names and values alternate.
-/
import CatalogReplica.Number.Binary64
import CatalogReplica.Text.Octets

namespace CatalogReplica

/-- A value in a reply. -/
inductive Reply where
  | nil
  /-- The status that a command succeeded. -/
  | okay
  | int (n : Int)
  | bulk (bytes : Octets)
  | simple (text : String)
  | array (items : List Reply)
  | set (items : List Reply)
  | map (items : List (Reply × Reply))
  | boolean (b : Bool)
  | double (x : Binary64)
  | verbatim (text : String)
  deriving Inhabited

namespace Reply

/-- The text of a value that is sent as one. -/
def text? : Reply → Option String
  | bulk bytes => Octets.text? bytes
  | simple s => some s
  | _ => none

end Reply
end CatalogReplica
