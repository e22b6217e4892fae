/-
# CatalogReplica.Stream.Consumer -- reading the log for one node

Entries are read one at a time. A claim comes first: it brings back one of the
node's own entries that has stayed unacknowledged for too long. Only when there
is none does a read wait for an entry that was never delivered.

Before reading, the node's group is created if there is none yet, and put at
the position behind which reading goes on.

A claim looks at a part of the pending entries only. Where the next one starts
is kept as a cursor, which moves when a reply to a claim could be read.
-/
import CatalogReplica.Settings
import CatalogReplica.Stream.Claim
import CatalogReplica.Stream.Read

namespace CatalogReplica

/-- The consumer of one stream on behalf of one node. -/
structure Consumer where
  streamKey : String
  /-- Names the group and the consumer. -/
  nodeId : String
  ackWait : Span
  blockTimeout : Span
  /-- Where the next claim starts. -/
  cursor : String := "0-0"
  deriving DecidableEq

namespace Consumer

/-- The consumer that settings describe. -/
def ofSettings (s : QueueSettings) : Except Failure Consumer := do
  let ackWait ← s.ackWaitSpan
  let blockTimeout ← s.blockSpan
  .ok { streamKey := s.streamKey, nodeId := s.nodeId, ackWait, blockTimeout }

/-! ## Commands -/

/-- Creates the group. -/
def createCommand (c : Consumer) : Command := .createGroup c.streamKey c.nodeId

/-- Puts the group behind an entry, or at the beginning. -/
def positionCommand (c : Consumer) (resume : Option EntryId) : Command :=
  .position c.streamKey c.nodeId resume

/-- Claims an entry that has stayed unacknowledged. -/
def claimCommand (c : Consumer) : Command :=
  .claim c.streamKey c.nodeId c.ackWait.millis c.cursor

/-- Waits for a new entry. -/
def readCommand (c : Consumer) : Command :=
  .read c.streamKey c.nodeId c.blockTimeout.millis

/-- Acknowledges an entry. -/
def ackCommand (c : Consumer) (id : EntryId) : Command :=
  .acknowledge c.streamKey c.nodeId id

/-! ## What the outcomes mean -/

/-- A group that exists already is as good as a new one. -/
def created (o : Outcome) : Except Failure Unit :=
  match o with
  | .refused r =>
    if r.code = "BUSYGROUP" then .ok ()
    else (o.reply "XGROUP CREATE").map fun _ => ()
  | _ => (o.reply "XGROUP CREATE").map fun _ => ()

/-- Any reply says that the group was put into position. -/
def positioned (o : Outcome) : Except Failure Unit :=
  (o.reply "XGROUP SETID").map fun _ => ()

/-- The claimed entry, if there is one, and the consumer with its cursor
moved. -/
def claimed (c : Consumer) (o : Outcome) : Except Failure (Option Entry × Consumer) := do
  match Claimed.ofReply (← o.reply "XAUTOCLAIM") with
  | .error fault => .error (.decode (.claimReply fault))
  | .ok found =>
    .ok (found.entries.getLast?.map fun e => { e with redelivered := true },
      { c with cursor := found.cursor })

/-- The new entry, if one came. -/
def read (o : Outcome) : Except Failure (Option Entry) :=
  o.value "XREADGROUP" ReadReply.entry?

/-- The acknowledgement of an entry. -/
def acknowledged (o : Outcome) : Except Failure Unit :=
  (o.value "XACK" Reply.count?).map fun _ => ()

/-! ## Calls -/

variable {m : Type → Type} [Monad m] (send : Command → m Outcome)

/-- Creates the group if needed and puts it into position. -/
def ensureGroup (c : Consumer) (resume : Option EntryId) : m (Except Failure Unit) := do
  match created (← send c.createCommand) with
  | .error f => pure (.error f)
  | .ok () => pure (positioned (← send (c.positionCommand resume)))

/-- The next entry to deliver, and the consumer afterwards. -/
def nextEntry (c : Consumer) : m (Except Failure (Option Entry) × Consumer) := do
  match c.claimed (← send c.claimCommand) with
  | .error f => pure (.error f, c)
  | .ok (some e, c) => pure (.ok (some e), c)
  | .ok (none, c) => pure (read (← send c.readCommand), c)

/-- Acknowledges an entry. -/
def ack (c : Consumer) (id : EntryId) : m (Except Failure Unit) := do
  pure (acknowledged (← send (c.ackCommand id)))

end Consumer
end CatalogReplica
