/-
# CatalogReplica.LocalQueue -- a queue inside one process

A queue without a log service, for a single node: what is published is
delivered to the one stream of events, in order and without a limit on how much
is under way. Acknowledgements are noted. Publishing, subscribing and
acknowledging can be made to fail.
-/
import CatalogReplica.Event
import CatalogReplica.Failure

namespace CatalogReplica

/-- A queue inside one process. -/
structure LocalQueue where
  /-- The events that have not been received, each with what will become of its
  acknowledgement. -/
  pending : List (Event × Except Failure Unit) := []
  /-- Whether events can still come. -/
  isOpen : Bool := true
  /-- Number of events so far. -/
  delivered : Nat := 0
  published : List Change := []
  acknowledged : List EntryId := []
  publishFailure : Option Failure := none
  subscribeFailure : Option Failure := none
  ackFailure : Option Failure := none

namespace LocalQueue

/-- Success, unless there is a failure. -/
def outcomeOf : Option Failure → Except Failure Unit
  | none => .ok ()
  | some f => .error f

/-- Delivers a change. -/
def deliver (q : LocalQueue) (c : Change) : EntryId × LocalQueue :=
  let id := (EntryId.of? (q.delivered + 1) 0).getD .zero
  let pending := if q.isOpen then q.pending ++ [(⟨id, c⟩, outcomeOf q.ackFailure)] else q.pending
  (id, { q with pending := pending, delivered := q.delivered + 1 })

/-- Publishes a change. -/
def publish (q : LocalQueue) (c : Change) : Except Failure EntryId × LocalQueue :=
  match q.publishFailure with
  | some f => (.error f, q)
  | none =>
    let (id, q) := q.deliver c
    (.ok id, { q with published := q.published ++ [c] })

/-- Whether the stream of events can be had. -/
def subscribe (q : LocalQueue) : Except Failure Unit := outcomeOf q.subscribeFailure

/-- Notes an acknowledgement that succeeded. -/
def note (q : LocalQueue) (e : Event) (ack : Except Failure Unit) : LocalQueue :=
  match ack with
  | .ok () => { q with acknowledged := q.acknowledged ++ [e.id] }
  | .error _ => q

end LocalQueue
end CatalogReplica
