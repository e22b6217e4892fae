/-
# CatalogReplica.Metrics -- what is measured

Everything that is measured is a `Measurement`, and what has been measured so
far is a list of them, the oldest first. A measurement is exported as samples:
a counter goes up, a gauge is set, a histogram gets one more record. The value
of a counter is therefore a sum over the list, in 64 bits, and that of a gauge
the last one that was set. Gauges are held as floating-point numbers.
-/
import CatalogReplica.Number.Binary64

namespace CatalogReplica

/-! ## Measurements -/

/-- One thing that was measured. -/
inductive Measurement where
  | published (subject : String) (success : Bool)
  | delivered (stream : String) (redelivered : Bool)
  /-- An entry that is not a change was dropped. -/
  | undecodable (stream : String)
  | acknowledged (stream : String) (success : Bool)
  | connectionAttempt (success : Bool)
  | connectionLost (reason : String)
  | queueState (name : String)
  | bootstrapped (domain : String) (records : Nat)
  | applied (action outcome : String)
  | applyFailed (reason : String)
  | ready (value : Bool)
  | replicatorState (name : String)
  | cacheSize (records categories : Nat)
  deriving DecidableEq, Repr

/-- What has been measured, the oldest first. -/
abbrev Measurements := List Measurement

/-! ## Samples -/

/-- The name of a metric and its labels, sorted by label. -/
structure MetricKey where
  name : String
  labels : List (String × String)
  deriving DecidableEq, Repr

/-- What a measurement does to one metric. -/
inductive Sample where
  | count (key : MetricKey) (amount : Nat)
  | set (key : MetricKey) (value : Int)
  | observe (key : MetricKey)
  deriving DecidableEq, Repr

/-- The label of an outcome. -/
def statusLabel (success : Bool) : String := if success then "success" else "failure"

/-- The number of a queue state; an unknown name is -1. -/
def queueStateNumber (name : String) : Int :=
  match ["Disconnected", "Connected", "Reconnecting", "Closed"].idxOf? name with
  | some n => n
  | none => -1

/-- The number of a replicator state; an unknown name is -1. -/
def replicatorStateNumber (name : String) : Int :=
  match ["Loading", "Streaming", "Stopped"].idxOf? name with
  | some n => n
  | none => -1

/-- The samples that a measurement is exported as. -/
def Measurement.samples : Measurement → List Sample
  | published subject success => [
    .count ⟨"catalog_queue_published_total",
      [("status", statusLabel success), ("subject", subject)]⟩ 1,
    .observe ⟨"catalog_queue_publish_duration_seconds", [("subject", subject)]⟩]
  | delivered stream redelivered =>
    .count ⟨"catalog_queue_deliveries_total", [("stream", stream)]⟩ 1 ::
      (if redelivered then
        [.count ⟨"catalog_queue_redeliveries_total", [("stream", stream)]⟩ 1]
      else [])
  | undecodable stream =>
    [.count ⟨"catalog_queue_decode_failures_total", [("stream", stream)]⟩ 1]
  | acknowledged stream success =>
    [.count ⟨"catalog_queue_acks_total",
      [("status", statusLabel success), ("stream", stream)]⟩ 1]
  | connectionAttempt success =>
    [.count ⟨"catalog_queue_connection_attempts_total", [("status", statusLabel success)]⟩ 1]
  | connectionLost reason =>
    [.count ⟨"catalog_queue_connections_lost_total", [("reason", reason)]⟩ 1]
  | queueState name => [.set ⟨"catalog_queue_state", []⟩ (queueStateNumber name)]
  | bootstrapped domain records => [
    .count ⟨"catalog_bootstrap_records_total", [("type", domain)]⟩ records,
    .observe ⟨"catalog_bootstrap_duration_seconds", [("type", domain)]⟩]
  | applied action outcome =>
    [.count ⟨"catalog_events_applied_total", [("method", action), ("outcome", outcome)]⟩ 1]
  | applyFailed reason => [.count ⟨"catalog_events_failed_total", [("reason", reason)]⟩ 1]
  | ready value => [.set ⟨"catalog_replicator_ready", []⟩ (if value then 1 else 0)]
  | replicatorState name =>
    [.set ⟨"catalog_replicator_state", []⟩ (replicatorStateNumber name)]
  | cacheSize records categories => [
    .set ⟨"catalog_cache_records", []⟩ (Magnitude.nearestNat records),
    .set ⟨"catalog_cache_categories", []⟩ (Magnitude.nearestNat categories)]

/-! ## Values -/

namespace Measurements

/-- All samples, the oldest first. -/
def samples (ms : Measurements) : List Sample := ms.flatMap Measurement.samples

/-- How much samples add to a counter. -/
def total (key : MetricKey) : List Sample → Nat
  | [] => 0
  | .count k amount :: rest => (if k = key then amount else 0) + total key rest
  | _ :: rest => total key rest

/-- The value of a counter. -/
def counter (ms : Measurements) (key : MetricKey) : Nat := total key ms.samples % word

/-- The value of a gauge, if it has been set. -/
def gauge? (ms : Measurements) (key : MetricKey) : Option Int :=
  ms.samples.foldl (fun value sample =>
    match sample with
    | .set k v => if k = key then some v else value
    | _ => value) none

/-- Number of records of a histogram. -/
def observations (ms : Measurements) (key : MetricKey) : Nat :=
  ms.samples.countP fun
    | .observe k => k = key
    | _ => false

theorem samples_append (ms ns : Measurements) :
    samples (ms ++ ns) = samples ms ++ samples ns := by
  simp [samples]

theorem total_append (key : MetricKey) (xs ys : List Sample) :
    total key (xs ++ ys) = total key xs + total key ys := by
  induction xs with
  | nil => simp [total]
  | cons x xs ih => cases x <;> simp [total, ih, Nat.add_assoc]

theorem counter_append (ms ns : Measurements) (key : MetricKey) :
    counter (ms ++ ns) key = (counter ms key + counter ns key) % word := by
  simp [counter, samples_append, total_append, Nat.add_mod]

/-! ## Export -/

/-- The text of a key: the name, and the labels between braces. -/
def keyText (key : MetricKey) : String :=
  if key.labels.isEmpty then key.name
  else
    let labels := key.labels.map fun (k, v) => k ++ "=" ++ v
    key.name ++ "\x7b" ++ String.intercalate "," labels ++ "\x7d"

/-- All counters with their values. -/
def counters (ms : Measurements) : List (String × Nat) :=
  let keys := ms.samples.filterMap fun
    | .count k _ => some k
    | _ => none
  keys.eraseDups.map fun k => (keyText k, ms.counter k)

/-- All gauges that were set, with their values. -/
def gauges (ms : Measurements) : List (String × Int) :=
  let keys := ms.samples.filterMap fun
    | .set k _ => some k
    | _ => none
  keys.eraseDups.filterMap fun k => (ms.gauge? k).map fun v => (keyText k, v)

/-- All histograms with their numbers of records. -/
def histograms (ms : Measurements) : List (String × Nat) :=
  let keys := ms.samples.filterMap fun
    | .observe k => some k
    | _ => none
  keys.eraseDups.map fun k => (keyText k, ms.observations k)

end Measurements
end CatalogReplica
