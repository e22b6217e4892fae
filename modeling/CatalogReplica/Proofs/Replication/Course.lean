/-
# CatalogReplica.Proofs.Replication.Course -- a replication step by step

`Replicator.replicate` tells what a replication comes to. Here it is taken apart into
the steps between which somebody else can look at the cache, ask whether the node is
ready, or watch the state:

    scanning --> storing --> loaded --> ready --> subscribing --> waiting --> stopped
                                                                  ^     |
                                                               acknowledging

A step is taken on a signal from outside (what the scan found, an event, the outcome of
an acknowledgement) or by the replicator on its own. The steps are built from the
functions that `replicate` is built from.

Two things are noted for the proofs alone: the acknowledgements that were called, and
with each of them the cache at that moment, which tells whether the change had been
applied by then.
-/
import CatalogReplica.Proofs.Runs
import CatalogReplica.Replicator

namespace CatalogReplica.Replicator

/-! ## Stages -/

/-- How far a replication is, with what loading came to as soon as that is known. -/
inductive Stage where
  | scanning
  /-- So many records were found, and these have yet to be stored. -/
  | storing (found : Nat) (rest : List Record)
  /-- Loading has been attempted. -/
  | loaded (loading : Verdict)
  | ready (loading : Verdict)
  | subscribing (loading : Verdict)
  /-- Waiting for an event, or for the end. -/
  | waiting (loading : Verdict)
  /-- Waiting for the outcome of an acknowledgement. -/
  | acknowledging (loading : Verdict)
  | stopped (verdict : Verdict)

/-- The stage after a scan. -/
def Stage.ofScan : Except Failure (List Record) → Stage
  | .error f => .loaded (.error f)
  | .ok found => .storing found.length found

/-- What a replication takes a step on. -/
inductive Signal where
  /-- Catalogs do not concern the node: there is nothing to scan. -/
  | passed
  | scanned (found : Except Failure (List Record))
  /-- The next record is stored, or none is left. -/
  | store
  | announce
  | enter
  | subscribed (outcome : Verdict)
  | received (e : Event)
  | acknowledged (outcome : Verdict)
  | ended (how : Ending)

/-- What others see of a replicator: whether it is ready, and its state. -/
abbrev Sight := Bool × ReplicatorState

/-- How a step changes what is seen. -/
def Signal.onSight : Signal → Sight → Sight
  | announce, (_, state) => (true, state)
  | enter, (isReady, _) => (isReady, .streaming)
  | subscribed (.error _), (isReady, _) | ended _, (isReady, _) => (isReady, .stopped)
  | _, seen => seen

/-- A replication under way. -/
structure Course where
  replicator : Replicator
  stage : Stage
  /-- The events whose acknowledgement was called, each with the cache at that
  moment. -/
  calls : List (Event × Cache)

namespace Course

/-- A replication that begins. -/
def start (r : Replicator) : Course := ⟨r, .scanning, []⟩

/-- Stores the next record. With one that cannot be stored, and when none is left,
loading is over. -/
def store (c : Course) (found : Nat) : List Record → Course
  | [] =>
    { c with
      replicator :=
        (c.replicator.measure (.bootstrapped Domain.catalogs.name found)).measureCache
      stage := .loaded (.ok ()) }
  | x :: rest =>
    match c.replicator.apply (.upsert x) with
    | .error f => { c with stage := .loaded (.error f) }
    | .ok r => { c with replicator := r, stage := .storing found rest }

/-- Counts as ready from now on, whatever loading came to. -/
def announce (c : Course) (loading : Verdict) : Course :=
  let r := match loading with
    | .ok () => c.replicator
    | .error _ => c.replicator.notify .bootstrapFailed
  { c with
    replicator := { r with isReady := true }.measure (.ready true)
    stage := .ready loading }

/-- Ends streaming. -/
def close (c : Course) (loading streaming : Verdict) : Course where
  replicator := (c.replicator.finish loading streaming).2
  stage := .stopped (c.replicator.finish loading streaming).1
  calls := c.calls

/-- Waits for events, if the queue could be subscribed to. -/
def subscribe (c : Course) (loading : Verdict) : Verdict → Course
  | .error f => c.close loading (.error f)
  | .ok () => { c with stage := .waiting loading }

/-- Takes an event: applies its change, and calls for its acknowledgement only if that
could be done. -/
def take (c : Course) (loading : Verdict) (e : Event) : Course :=
  match c.replicator.apply e.change with
  | .error f =>
    { c with
      replicator := (c.replicator.notify .applyFailed).measure (.applyFailed (failureLabel f))
      stage := .waiting loading }
  | .ok r =>
    { replicator := r.measureCache
      stage := .acknowledging loading
      calls := c.calls ++ [(e, r.cache)] }

theorem store_of_error {c : Course} {x : Record} {f : Failure}
    (h : c.replicator.apply (.upsert x) = .error f) (found : Nat) (rest : List Record) :
    c.store found (x :: rest) = { c with stage := .loaded (.error f) } := by
  simp only [store, h]

theorem store_of_ok {c : Course} {x : Record} {r : Replicator}
    (h : c.replicator.apply (.upsert x) = .ok r) (found : Nat) (rest : List Record) :
    c.store found (x :: rest) = { c with replicator := r, stage := .storing found rest } := by
  simp only [store, h]

theorem take_of_error {c : Course} {e : Event} {f : Failure}
    (h : c.replicator.apply e.change = .error f) (loading : Verdict) :
    c.take loading e =
      { c with
        replicator :=
          (c.replicator.notify .applyFailed).measure (.applyFailed (failureLabel f))
        stage := .waiting loading } := by
  simp only [take, h]

theorem take_of_ok {c : Course} {e : Event} {r : Replicator}
    (h : c.replicator.apply e.change = .ok r) (loading : Verdict) :
    c.take loading e =
      ⟨r.measureCache, .acknowledging loading, c.calls ++ [(e, r.cache)]⟩ := by
  simp only [take, h]

/-- Goes on after an acknowledgement. -/
def goOn (c : Course) (loading outcome : Verdict) : Course where
  replicator := match outcome with
    | .ok () => c.replicator
    | .error _ => c.replicator.notify .acknowledgeFailed
  stage := .waiting loading
  calls := c.calls

/-- Takes a step. A signal that does not fit the stage does not occur. -/
def step (c : Course) (s : Signal) : Option Course :=
  match c.stage, s with
  | .scanning, .passed =>
    if c.replicator.domains.contains .catalogs then none
    else some { c with stage := .loaded (.ok ()) }
  | .scanning, .scanned found =>
    if c.replicator.domains.contains .catalogs then some { c with stage := .ofScan found }
    else none
  | .storing found rest, .store => some (c.store found rest)
  | .loaded loading, .announce => some (c.announce loading)
  | .ready loading, .enter =>
    some { c with replicator := c.replicator.enter .streaming, stage := .subscribing loading }
  | .subscribing loading, .subscribed outcome => some (c.subscribe loading outcome)
  | .waiting loading, .received e => some (c.take loading e)
  | .waiting loading, .ended how => some (c.close loading how.verdict)
  | .acknowledging loading, .acknowledged outcome => some (c.goOn loading outcome)
  | _, _ => none

/-- What a step can be, with what it depends on. -/
inductive Moves (c : Course) : Signal → Course → Prop where
  | passed (stage : c.stage = .scanning) (foreign : c.replicator.domains.contains .catalogs = false) :
    Moves c .passed { c with stage := .loaded (.ok ()) }
  | scanned (found : Except Failure (List Record)) (stage : c.stage = .scanning)
      (concerned : c.replicator.domains.contains .catalogs = true) :
    Moves c (.scanned found) { c with stage := .ofScan found }
  | stored (found : Nat) (x : Record) (rest : List Record) (r : Replicator)
      (stage : c.stage = .storing found (x :: rest))
      (applied : c.replicator.apply (.upsert x) = .ok r) :
    Moves c .store { c with replicator := r, stage := .storing found rest }
  | unstorable (found : Nat) (x : Record) (rest : List Record) (f : Failure)
      (stage : c.stage = .storing found (x :: rest))
      (failed : c.replicator.apply (.upsert x) = .error f) :
    Moves c .store { c with stage := .loaded (.error f) }
  | allStored (found : Nat) (stage : c.stage = .storing found []) : Moves c .store
      { c with
        replicator :=
          (c.replicator.measure (.bootstrapped Domain.catalogs.name found)).measureCache
        stage := .loaded (.ok ()) }
  | announced (loading : Verdict) (stage : c.stage = .loaded loading) :
    Moves c .announce (c.announce loading)
  | entered (loading : Verdict) (stage : c.stage = .ready loading) : Moves c .enter
      { c with replicator := c.replicator.enter .streaming, stage := .subscribing loading }
  | subscribed (loading outcome : Verdict) (stage : c.stage = .subscribing loading) :
    Moves c (.subscribed outcome) (c.subscribe loading outcome)
  | rejected (loading : Verdict) (e : Event) (f : Failure) (stage : c.stage = .waiting loading)
      (failed : c.replicator.apply e.change = .error f) :
    Moves c (.received e)
      { c with
        replicator :=
          (c.replicator.notify .applyFailed).measure (.applyFailed (failureLabel f))
        stage := .waiting loading }
  | taken (loading : Verdict) (e : Event) (r : Replicator) (stage : c.stage = .waiting loading)
      (applied : c.replicator.apply e.change = .ok r) :
    Moves c (.received e) ⟨r.measureCache, .acknowledging loading, c.calls ++ [(e, r.cache)]⟩
  | closed (loading : Verdict) (how : Ending) (stage : c.stage = .waiting loading) :
    Moves c (.ended how) (c.close loading how.verdict)
  | acknowledged (loading outcome : Verdict) (stage : c.stage = .acknowledging loading) :
    Moves c (.acknowledged outcome) (c.goOn loading outcome)

theorem moves_of_step {c d : Course} {s : Signal} (h : c.step s = some d) : c.Moves s d := by
  unfold step at h
  split at h
  case h_1 stage =>
    split at h <;> cases h
    rename_i hforeign
    exact .passed stage (Bool.eq_false_iff.mpr hforeign)
  case h_2 found stage =>
    split at h <;> cases h
    rename_i hconcerned
    exact .scanned found stage hconcerned
  case h_3 found rest stage =>
    cases h
    cases rest with
    | nil => exact .allStored found stage
    | cons x rest =>
      cases happly : c.replicator.apply (.upsert x) with
      | error f =>
        rw [store_of_error happly]
        exact .unstorable found x rest f stage happly
      | ok r =>
        rw [store_of_ok happly]
        exact .stored found x rest r stage happly
  case h_4 loading stage =>
    cases h
    exact .announced loading stage
  case h_5 loading stage =>
    cases h
    exact .entered loading stage
  case h_6 loading outcome stage =>
    cases h
    exact .subscribed loading outcome stage
  case h_7 loading e stage =>
    cases h
    cases happly : c.replicator.apply e.change with
    | error f =>
      rw [take_of_error happly]
      exact .rejected loading e f stage happly
    | ok r =>
      rw [take_of_ok happly]
      exact .taken loading e r stage happly
  case h_8 loading how stage =>
    cases h
    exact .closed loading how stage
  case h_9 loading outcome stage =>
    cases h
    exact .acknowledged loading outcome stage
  case h_10 => cases h

/-- Takes steps in order. -/
def run (c : Course) (ss : List Signal) : Option Course := ss.foldlM step c

theorem run_cons (c : Course) (s : Signal) (ss : List Signal) :
    c.run (s :: ss) = (c.step s).bind fun d => d.run ss := by
  simp only [run, List.foldlM_cons, Option.bind_eq_bind]

theorem run_append {c d : Course} {ss : List Signal} (h : c.run ss = some d)
    (ts : List Signal) : c.run (ss ++ ts) = d.run ts := foldlM_append_of_some h ts

/-! ## What others see -/

/-- What is seen of a replication. -/
def sight (c : Course) : Sight := (c.replicator.isReady, c.replicator.state)

/-- What is seen after each of some steps. -/
def sights (c : Course) : List Signal → List Sight
  | [] => []
  | s :: ss =>
    match c.step s with
    | none => []
    | some d => d.sight :: d.sights ss

theorem sights_cons {c d : Course} {s : Signal} (h : c.step s = some d) (ss : List Signal) :
    c.sights (s :: ss) = d.sight :: d.sights ss := by
  rw [sights, h]

theorem sights_append {c d : Course} {ss : List Signal} (h : c.run ss = some d)
    (ts : List Signal) : c.sights (ss ++ ts) = c.sights ss ++ d.sights ts := by
  induction ss generalizing c with
  | nil =>
    cases h
    rfl
  | cons s ss ih =>
    rw [run_cons] at h
    obtain ⟨c', hstep, hrun⟩ := Option.bind_eq_some_iff.mp h
    rw [List.cons_append, sights_cons hstep, sights_cons hstep, ih hrun, List.cons_append]

theorem sight_of_apply {r s : Replicator} {c : Change} (h : r.apply c = .ok s) :
    (s.isReady, s.state) = (r.isReady, r.state) := by
  unfold apply at h
  cases heffect : effect r.domains c with
  | error f => simp [heffect, Except.map] at h
  | ok e =>
    rw [heffect] at h
    cases h
    rfl

theorem announce_sight (c : Course) (loading : Verdict) :
    (c.announce loading).sight = (true, c.replicator.state) := by
  cases loading <;> rfl

theorem close_sight (c : Course) (loading streaming : Verdict) :
    (c.close loading streaming).sight = (c.replicator.isReady, .stopped) := by
  cases streaming <;> rfl

/-- The readiness and the state change at four steps and at no other. -/
theorem step_sight {c d : Course} {s : Signal} (h : c.step s = some d) :
    d.sight = s.onSight c.sight := by
  cases moves_of_step h with
  | stored _ _ _ _ _ applied => exact sight_of_apply applied
  | taken _ _ _ _ applied =>
    have hsame := sight_of_apply applied
    exact hsame
  | announced loading => exact announce_sight c loading
  | subscribed loading outcome =>
    cases outcome with
    | ok _ => rfl
    | error f => exact close_sight c loading (.error f)
  | closed loading how => exact close_sight c loading how.verdict
  | acknowledged loading outcome => cases outcome <;> rfl
  | _ => rfl

/-- As long as no signal changes it, the same is seen. -/
theorem sights_of_quiet {c d : Course} {ss : List Signal} (h : c.run ss = some d)
    (hquiet : ∀ s ∈ ss, ∀ seen, s.onSight seen = seen) :
    c.sights ss = List.replicate ss.length c.sight ∧ d.sight = c.sight := by
  induction ss generalizing c with
  | nil =>
    cases h
    exact ⟨rfl, rfl⟩
  | cons s ss ih =>
    rw [run_cons] at h
    obtain ⟨c', hstep, hrun⟩ := Option.bind_eq_some_iff.mp h
    have hsame : c'.sight = c.sight := by
      rw [step_sight hstep, hquiet s List.mem_cons_self]
    obtain ⟨hsights, hlast⟩ := ih hrun fun t ht => hquiet t (List.mem_cons_of_mem s ht)
    rw [sights_cons hstep, hsights, hlast, hsame]
    exact ⟨rfl, rfl⟩

end Course
end CatalogReplica.Replicator
