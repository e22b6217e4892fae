/-
# CatalogReplica.Queue.Calls -- what callers do with a queue

A call that sends a command has two halves: what happens at once, and what
happens when the command has an outcome. In between, tasks and other callers go
on. Closing has two halves as well: the tasks are told to end, and when all of
them have ended the queue is closed.
-/
import CatalogReplica.Channel
import CatalogReplica.Queue.Moves

namespace CatalogReplica.Queue

/-! ## Publishing -/

/-- Begins to publish a change: nothing is sent when the queue is closing or
holds no connection, otherwise one entry is appended. -/
def publish (q : Queue) (c : Change) (now : Timestamp) : Except Failure Command :=
  if q.isClosing then .error .queueClosed
  else if q.isConnected then .ok (.append q.consumer.streamKey (c.publishedAt now).json)
  else .error .noConnection

/-- The position that the reply to an append names. -/
def appendedId (text : String) : Except Failure EntryId :=
  match EntryId.read? text with
  | some id => .ok id
  | none => .error (.decode (.entryId text))

/-- The entry of a published change had an outcome. The change counts as
published as soon as the service has answered with a text. -/
def publishAnswered (q : Queue) (o : Outcome) : Except Failure EntryId × Queue :=
  match o.value "XADD" Reply.textLike? with
  | .ok text => (appendedId text, q.measure (.published q.settings.subject true))
  | .error f =>
    let q := q.measure (.published q.settings.subject false)
    (.error f, if f.isConnectionLost then q.lose f else q)

/-! ## Receiving and acknowledging -/

/-- Fails once the queue is closing; otherwise callers share one stream of
events. -/
def subscribe (q : Queue) : Except Failure Unit :=
  if q.isClosing then .error .queueClosed else .ok ()

/-- Whether no event can come any more. -/
def isEnded (q : Queue) : Bool := q.forwarder.isNone && (q.state = .closed || q.isGone)

/-- Receives the next event. -/
def receive (q : Queue) : Received Event × Queue :=
  match q.output with
  | some e => (.item e, { q with output := none })
  | none => (if q.isEnded then .ended else .nothing, q)

/-- Begins to acknowledge an event. -/
def acknowledge (q : Queue) (id : EntryId) : Except Failure Command :=
  if q.isGone then .error .queueClosed
  else if q.isConnected then .ok (q.consumer.ackCommand id)
  else .error .noConnection

/-- The acknowledgement had an outcome. -/
def ackAnswered (q : Queue) (o : Outcome) : Except Failure Unit × Queue :=
  let result := Consumer.acknowledged o
  let q := q.measure (.acknowledged q.consumer.streamKey result.isOk)
  match result with
  | .ok () => (.ok (), q)
  | .error f => (.error f, if f.isConnectionLost then q.lose f else q)

/-! ## Closing -/

/-- Tells the tasks to end. A queue that is closing already stays as it is, and
this call has nothing to wait for. -/
def beginClose (q : Queue) : Option Queue :=
  if q.isClosing then none else some { q with isClosing := true }

/-- Whether no task is at work any more. -/
def isIdle (q : Queue) : Bool := q.reader.isNone && q.forwarder.isNone && !q.isRecovering

/-- What the tasks that did not end by themselves leave behind. -/
def taskFailures (q : Queue) : List Failure :=
  if q.recovery = some .broken then
    [.internal (.taskFailed "the next attempt to connect cannot be scheduled")]
  else []

/-- All tasks have ended: the connection is dropped and the queue is closed. -/
def finishClose (q : Queue) : Option (Except Failure Unit × Queue) :=
  if q.isClosing && q.state ≠ .closed && q.isIdle then
    let failures := q.taskFailures
    let q := { q with
      notices := q.notices ++ failures.map fun _ => Notice.taskFailedAtClose
      isConnected := false
      recovery := none }.enter .closed
    if failures.isEmpty then some (.ok (), q)
    else some (.error (.close failures), q.notify .closedWithErrors)
  else none

/-- The owner lets go of the queue without closing it; the tasks end. -/
def release (q : Queue) : Queue := { q with isReleased := true }

end CatalogReplica.Queue
