/-
# CatalogReplica.Replicator -- keeping the cache up to date

A replicator fills the cache of its node. It first loads every record of the
authoritative store, and then applies the changes that the queue delivers. An
event is acknowledged only after it was applied; one that cannot be applied is
left to be delivered again, and the next one follows.

    loading --(load attempted)--> streaming --(shutdown or end of stream)--> stopped

The cache counts as ready as soon as loading has been attempted, even if it
failed, since the stream brings the whole backlog to a new node anyway.
-/
import CatalogReplica.Cache
import CatalogReplica.Event
import CatalogReplica.Failure
import CatalogReplica.Metrics
import CatalogReplica.Notice

namespace CatalogReplica

/-! ## State -/

/-- How far a replicator is. -/
inductive ReplicatorState where
  | loading
  | streaming
  | stopped
  deriving DecidableEq, Repr

/-- The name of a replicator state. -/
def ReplicatorState.name : ReplicatorState → String
  | loading => "Loading"
  | streaming => "Streaming"
  | stopped => "Stopped"

/-- A replicator with the cache it fills. -/
structure Replicator where
  /-- The domains whose changes are applied. -/
  domains : List Domain
  cache : Cache
  /-- Whether loading has been attempted. -/
  isReady : Bool
  state : ReplicatorState
  measurements : Measurements
  notices : List Notice

/-- What a replication comes to. -/
abbrev Verdict := Except Failure Unit

namespace Replicator

/-- Adds a measurement. -/
def measure (r : Replicator) (m : Measurement) : Replicator :=
  { r with measurements := r.measurements ++ [m] }

/-- Adds a notice. -/
def notify (r : Replicator) (n : Notice) : Replicator :=
  { r with notices := r.notices ++ [n] }

/-- Enters a state. -/
def enter (r : Replicator) (s : ReplicatorState) : Replicator :=
  { r with state := s }.measure (.replicatorState s.name)

/-- Measures the size of the cache. -/
def measureCache (r : Replicator) : Replicator :=
  r.measure (.cacheSize r.cache.size r.cache.categoryCount)

/-- A replicator for these domains, with an empty cache. -/
def create (domains : List Domain) : Replicator where
  domains := domains
  cache := .empty
  isReady := false
  state := .loading
  measurements := [.ready false, .replicatorState ReplicatorState.loading.name]
  notices := []

/-! ## Applying changes -/

/-- What a change does to the cache. -/
inductive Effect where
  /-- The change does not concern this node. -/
  | ignored
  | stored (r : Record)
  | removed (id : String)
  deriving DecidableEq

/-- What a change does, given the domains of a node. Changes of other domains,
and changes without a record, are ignored; a record without an id cannot be
stored. -/
def effect (domains : List Domain) (c : Change) : Except Failure Effect :=
  if domains.contains c.domain && c.domain.isCatalogs then
    match c.record, c.action with
    | none, _ => .ok .ignored
    | some r, .upsert =>
      if r.id.isEmpty then .error (.invalidChange .upsertWithoutId) else .ok (.stored r)
    | some r, .delete => .ok (.removed r.id)
  else .ok .ignored

/-- The cache after an effect. -/
def Effect.on (cache : Cache) : Effect → Cache
  | ignored => cache
  | stored r => cache.upsert r
  | removed id => cache.remove id

/-- The label of an effect. -/
def Effect.label : Effect → String
  | ignored => "ignored"
  | stored _ | removed _ => "applied"

/-- Applies a change. -/
def apply (r : Replicator) (c : Change) : Except Failure Replicator :=
  (effect r.domains c).map fun e =>
    { r with cache := e.on r.cache }.measure (.applied c.action.name e.label)

/-! ## Loading -/

/-- Stores records one after another and stops at the first that cannot be
stored. -/
def load (r : Replicator) : List Record → Verdict × Replicator
  | [] => (.ok (), r)
  | x :: xs =>
    match r.apply (.upsert x) with
    | .ok r => r.load xs
    | .error f => (.error f, r)

/-- Loads what a scan of the store found, if catalogs concern this node. -/
def bootstrap (r : Replicator) (scan : Except Failure (List Record)) : Verdict × Replicator :=
  if r.domains.contains .catalogs then
    match scan with
    | .error f => (.error f, r)
    | .ok records =>
      match r.load records with
      | (.error f, r) => (.error f, r)
      | (.ok (), r) =>
        (.ok (), (r.measure (.bootstrapped Domain.catalogs.name records.length)).measureCache)
  else (.ok (), r)

/-- Begins a replication: loads, and then counts as ready and streaming. The
verdict is that of loading. -/
def begin (r : Replicator) (scan : Except Failure (List Record)) : Verdict × Replicator :=
  let (verdict, r) := r.bootstrap scan
  let r := match verdict with
    | .ok () => r
    | .error _ => r.notify .bootstrapFailed
  (verdict, ({ r with isReady := true }.measure (.ready true)).enter .streaming)

/-! ## Streaming -/

/-- The label of the reason why an event could not be applied. -/
def failureLabel : Failure → String
  | .invalidChange _ => "invalid_operation"
  | .decode _ => "decode"
  | _ => "other"

/-- Handles an event whose acknowledgement, if it comes to it, has a given
outcome. Also returned is whether the event was acknowledged. -/
def handle (r : Replicator) (e : Event) (ack : Verdict) : Bool × Replicator :=
  match r.apply e.change with
  | .error f => (false, (r.notify .applyFailed).measure (.applyFailed (failureLabel f)))
  | .ok r =>
    let r := r.measureCache
    (true, match ack with
      | .ok () => r
      | .error _ => r.notify .acknowledgeFailed)

/-- Handles events in order. -/
def handleAll (r : Replicator) (events : List (Event × Verdict)) : Replicator :=
  events.foldl (fun r (e, ack) => (r.handle e ack).2) r

/-- Ends a replication. A failure of the stream counts before one of loading. -/
def finish (r : Replicator) (loading streaming : Verdict) : Verdict × Replicator :=
  let r := r.enter .stopped
  match streaming with
  | .error f => (.error f, r.notify .replicationFailed)
  | .ok () => (loading, r)

/-! ## A whole replication -/

/-- How streaming ends. -/
inductive Ending where
  /-- The node is being shut down. -/
  | shutdown
  /-- No event can come any more. -/
  | streamEnded
  deriving DecidableEq, Repr

/-- The verdict of streaming that ended so. -/
def Ending.verdict : Ending → Verdict
  | shutdown => .ok ()
  | streamEnded => .error .streamClosed

/-- A replication from its beginning to its end: what the scan of the store
found, whether the queue could be subscribed to, and the events that came before
the end. -/
def replicate (r : Replicator) (scan : Except Failure (List Record)) (subscribed : Verdict)
    (events : List (Event × Verdict)) (ending : Ending) : Verdict × Replicator :=
  let (loading, r) := r.begin scan
  match subscribed with
  | .error f => r.finish loading (.error f)
  | .ok () => (r.handleAll events).finish loading ending.verdict

end Replicator
end CatalogReplica
