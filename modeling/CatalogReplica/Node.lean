/-
# CatalogReplica.Node -- a node in one process

A node puts the parts together: the authoritative store, a queue inside the
process, a replicator with its cache, and the calls of the service. Whatever can
be worked off is worked off before the next call is taken.

A replication that was started is due until it begins. On a new replicator it
begins at once; on one that has been through a replication before it begins when
there is an event to handle, when somebody waits for its verdict, or when the
means to shut the node down are given up.
-/
import CatalogReplica.LocalQueue
import CatalogReplica.Replicator
import CatalogReplica.Service

namespace CatalogReplica

/-- A replication that was started. -/
inductive Replication where
  /-- It has not begun. -/
  | due
  /-- It streams; loading came to this verdict. -/
  | running (loading : Verdict)
  | ended (verdict : Verdict)

/-- A node in one process. -/
structure Node where
  store : Store
  /-- Why the store cannot be scanned, if it cannot. -/
  scanFailure : Option Failure
  replicator : Replicator
  queue : LocalQueue := {}
  replication : Option Replication := none
  /-- Whether the node is being shut down. -/
  isShutdown : Bool := false
  /-- Whether the shutdown can still be signalled. -/
  canShutdown : Bool := true

namespace Node

/-- A node with these records in its store. -/
def create (records : List Record) (domains : List Domain) (scanFailure : Option Failure) :
    Node where
  store := .ofList records
  scanFailure := scanFailure
  replicator := .create domains

/-- What a scan of the store finds. -/
def scan (n : Node) : Except Failure (List Record) :=
  match n.scanFailure with
  | some f => .error f
  | none => .ok (n.store.scan none)

/-! ## Replicating -/

/-- Handles an event and notes its acknowledgement. -/
def handle (n : Node) (e : Event) (ack : Verdict) : Node :=
  let (acked, replicator) := n.replicator.handle e ack
  { n with
    replicator := replicator
    queue := if acked then n.queue.note e ack else n.queue }

/-- Ends the replication that is running. -/
def stop (n : Node) (loading streaming : Verdict) : Node :=
  let (verdict, replicator) := n.replicator.finish loading streaming
  { n with replicator := replicator, replication := some (.ended verdict) }

/-- Works off what a running replication can work off. -/
def workOff (n : Node) : Node :=
  match n.replication with
  | some (.running loading) =>
    if n.isShutdown then n.stop loading (.ok ())
    else
      let events := n.queue.pending
      let n := { n with queue := { n.queue with pending := [] } }
      let n := events.foldl (fun n (e, ack) => n.handle e ack) n
      if n.queue.isOpen then n else n.stop loading (.error .streamClosed)
  | _ => n

/-- Begins the replication that is due, and works off what it can. -/
def begin (n : Node) : Node :=
  match n.replication with
  | some .due =>
    let (loading, replicator) := n.replicator.begin n.scan
    let n := { n with replicator := replicator }
    match n.queue.subscribe with
    | .ok () => { n with replication := some (.running loading) }.workOff
    | .error f => n.stop loading (.error f)
  | _ => n.workOff

/-- Whether a replication that is due begins without being waited for. -/
def isPressing (n : Node) : Bool :=
  n.replicator.state = .loading || !n.queue.pending.isEmpty

/-- Works off what can be worked off before the next call. -/
def settle (n : Node) : Node :=
  match n.replication with
  | some .due => if n.isPressing then n.begin else n
  | _ => n.workOff

/-- Starts a replication. -/
def start (n : Node) : Node := { n with replication := some .due }.settle

/-- Waits for the verdict of the replication, if one was started. -/
def join (n : Node) : Option Verdict × Node :=
  let n := n.begin
  match n.replication with
  | some (.ended verdict) => (some verdict, { n with replication := none })
  | _ => (none, n)

/-- Shuts the node down. -/
def shutdown (n : Node) : Option Verdict × Node :=
  { n with isShutdown := n.isShutdown || n.canShutdown }.join

/-- Ends the stream of events. -/
def endStream (n : Node) : Option Verdict × Node :=
  { n with queue := { n.queue with isOpen := false } }.join

/-- Gives up the means to shut the node down. The background gets time to
notice, so a replication that is due begins. -/
def dropShutdown (n : Node) : Node := { n with canShutdown := false }.begin

/-! ## Calls -/

/-- Applies a change to the cache. -/
def apply (n : Node) (c : Change) : Verdict × Node :=
  match n.replicator.apply c with
  | .ok replicator => (.ok (), { n with replicator := replicator })
  | .error f => (.error f, n)

/-- Delivers a change. -/
def deliver (n : Node) (c : Change) : EntryId × Node :=
  let (id, queue) := n.queue.deliver c
  (id, { n with queue := queue }.settle)

/-- Writes a record. A new one gets an id that was drawn for it. -/
def write (n : Node) (freshId : String) (now : Timestamp) (w : Service.Write) :
    Except Failure Record × Node :=
  match Service.take n.store freshId now w with
  | .error f => (.error f, n)
  | .ok t =>
    let (published, queue) := n.queue.publish t.change
    let replicator := match published with
      | .ok _ => n.replicator
      | .error _ => n.replicator.notify .publishFailed
    (Service.answer t published,
      { n with
        store := t.store
        queue := queue
        replicator := replicator }.settle)

/-- Sets what fails from now on. -/
def setFailures (n : Node) (publish subscribe ack : Option Failure) : Node :=
  { n with queue := { n.queue with
    publishFailure := publish
    subscribeFailure := subscribe
    ackFailure := ack } }

end Node
end CatalogReplica
