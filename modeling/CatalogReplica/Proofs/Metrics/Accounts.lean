/-
# CatalogReplica.Proofs.Metrics.Accounts -- the counters account for everything

Whoever watches a node sees its counters only. So that nothing is lost without a trace they
have to add up: entries that readers got are delivered or undecodable, commands that were
sent are answered or failed, and records and events are applied, ignored or failed. This
holds at every moment between two steps, whatever has gone wrong before.
-/
import CatalogReplica.Proofs.Queue.Counters
import CatalogReplica.Proofs.Queue.ReadingOrder
import CatalogReplica.Proofs.Replication.Counters
import CatalogReplica.Proofs.Replication.Gauges

namespace CatalogReplica

open Crew (fresh)
open Replicator (create)
open Replicator.Course (appliesRecord takesEvent failsEvent succeeds)

/-- What the counters show, after any run of a queue and after any run of a replicator.

* Of a queue: deliveries and undecodable entries together are the entries that readers got;
  redeliveries are those of them that came by a claim and could be decoded; acknowledgements
  and publications, successes and failures together, are the commands of callers that were
  answered or failed; and the losses are the times that the state became `reconnecting`.
* Of a replicator: events that were applied or failed are the records of the bootstrap that
  were applied and the events that were processed, and the failed ones are those whose
  changes could not be applied. The records of the bootstrap count, as many as the scan has
  found, if catalogs concern the node and all of them were stored, and else not at all. -/
theorem counters_account {s : QueueSettings} {q : Queue} (hcreate : Queue.create s = .ok q)
    {as : List Crew.Act} {c : Crew} (hrun : (fresh q).run as = some c)
    {domains : List Domain} {ss : List Replicator.Signal} {d : Replicator.Course}
    (hcourse : (Replicator.Course.start (create domains)).run ss = some d) :
    let steps := (fresh q).passages as
    let queueShows := c.measurements.Shows
    let course := (Replicator.Course.start (create domains)).passages ss
    let replicatorShows := d.replicator.measurements.Shows
    queueShows ["catalog_queue_deliveries_total", "catalog_queue_decode_failures_total"]
      (steps.countP fun p => (p.before.entry? p.act).isSome) ∧
    queueShows ["catalog_queue_redeliveries_total"]
      (steps.countP fun p =>
        p.act.isClaim && ((p.before.entry? p.act).bind Entry.event?).isSome) ∧
    queueShows ["catalog_queue_acks_total"]
      (steps.countP fun p => (p.before.ended? p.act).any Command.isAcknowledge) ∧
    queueShows ["catalog_queue_published_total"]
      (steps.countP fun p => (p.before.ended? p.act).any Command.isAppend) ∧
    queueShows ["catalog_queue_connections_lost_total"]
      (steps.countP fun p => p.before.state ≠ .reconnecting ∧ p.after.state = .reconnecting) ∧
    replicatorShows ["catalog_events_applied_total", "catalog_events_failed_total"]
      (course.countP appliesRecord + course.countP takesEvent) ∧
    replicatorShows ["catalog_events_failed_total"] (course.countP failsEvent) ∧
    replicatorShows ["catalog_bootstrap_records_total"]
      (if domains.contains .catalogs && course.any succeeds then
        (ss.map Replicator.Course.found).sum
      else 0) := by
  intro steps queueShows course replicatorShows
  exact ⟨Crew.shows_run hcreate hrun .entry, Crew.shows_run hcreate hrun .redelivery,
    Crew.shows_run hcreate hrun .acknowledgement, Crew.shows_run hcreate hrun .publication,
    Crew.shows_losses hcreate hrun, Replicator.Course.shows_handled hcourse,
    Replicator.Course.shows_failed hcourse, Replicator.Course.shows_bootstrapped hcourse⟩

/-! ## A loss that two callers report -/

/-- An event is read, and the connection is lost while it is acknowledged and a change is
published. -/
def lostByCallers : List Crew.Act :=
  Crew.connecting ++ Crew.claiming "1-0" "oak" ++
  [.acknowledge .zero, .publish (.delete "ash") .epoch,
    .answered 0 (.lost "connection closed"), .answered 0 (.lost "connection closed")]

/-- The commands count one by one, and the loss once. Of the bootstrap, which stops at a
record without an id, one record counts as applied, and so does the event that follows. -/
theorem counted_lost_by_callers :
    ∃ q c d, Queue.create { nodeId := "node" } = .ok q ∧
      (fresh q).run lostByCallers = some c ∧
      (Replicator.Course.start (create [.catalogs])).run Replicator.thenDeleted = some d ∧
      c.measurements.Shows ["catalog_queue_acks_total"] 1 ∧
      c.measurements.Shows ["catalog_queue_published_total"] 1 ∧
      c.measurements.Shows ["catalog_queue_connections_lost_total"] 1 ∧
      d.replicator.measurements.Shows
        ["catalog_events_applied_total", "catalog_events_failed_total"] 2 ∧
      d.replicator.measurements.Shows ["catalog_bootstrap_records_total"] 0 := by
  have hcounted : (match Queue.create { nodeId := "node" } with
      | .error _ => none
      | .ok q => ((fresh q).run lostByCallers).map fun _ =>
        let steps := (fresh q).passages lostByCallers
        (steps.countP fun p => (p.before.ended? p.act).any Command.isAcknowledge,
          steps.countP fun p => (p.before.ended? p.act).any Command.isAppend,
          steps.countP fun p => p.before.state ≠ .reconnecting ∧ p.after.state = .reconnecting)) =
      some (1, 1, 1) := by
    decide +kernel
  obtain ⟨d, hcourse⟩ : ∃ d,
      (Replicator.Course.start (create [.catalogs])).run Replicator.thenDeleted = some d :=
    ⟨_, rfl⟩
  split at hcounted
  case h_1 => cases hcounted
  case h_2 q hcreate =>
    obtain ⟨c, hrun, hnumbers⟩ := Option.map_eq_some_iff.mp hcounted
    simp only [Prod.mk.injEq] at hnumbers
    obtain ⟨hacks, hpublished, hlosses⟩ := hnumbers
    obtain ⟨-, -, hshown, hshown', hshown'', hhandled, -, hbootstrapped⟩ :=
      counters_account hcreate hrun hcourse
    rw [hacks] at hshown
    rw [hpublished] at hshown'
    rw [hlosses] at hshown''
    exact ⟨q, c, d, hcreate, hrun, hcourse, hshown, hshown', hshown'', hhandled, hbootstrapped⟩

end CatalogReplica
