/-
# CatalogReplica.Proofs.Replication.Gauges -- the gauges of the size of the cache

The cache is measured in two places: when all records are loaded, and when the change of an
event has been applied. It changes in more places than that. When loading stops at a record
that cannot be stored, the records before it are in the cache and nobody has measured it, so
the gauges go on to show what they showed before: nothing. The first event whose change is
applied makes that good, and from then on the gauges show the size whatever happens.
-/
import CatalogReplica.Proofs.Metrics.Values
import CatalogReplica.Proofs.Replication.Applying
import CatalogReplica.Proofs.Replication.Course

namespace CatalogReplica

/-- Whether a measurement is one of the size of a cache. -/
def Measurement.isOfSize : Measurement → Bool
  | .cacheSize .. => true
  | _ => false

/-! ## An empty cache -/

/-- Without records there are no categories. -/
theorem Cache.Reachable.categoryCount_eq_zero {c : Cache} (h : c.Reachable) (hsize : c.size = 0) :
    c.categoryCount = 0 := by
  have hnone : ∀ category, category ∉ c.categories := by
    intro category hmem
    obtain ⟨id, r, hr, -⟩ := (mem_categories_iff h.consistent category).mp hmem
    have hempty : c.records.isEmpty = true := by
      rw [Std.TreeMap.isEmpty_eq_size_eq_zero]
      exact beq_iff_eq.mpr hsize
    rw [Std.TreeMap.getElem?_of_isEmpty hempty] at hr
    cases hr
  have hkeys : c.index.keys = [] := List.eq_nil_iff_forall_not_mem.mpr hnone
  have hlength : c.index.keys.length = c.categoryCount := Std.TreeMap.length_keys
  rw [← hlength, hkeys]
  rfl

namespace Replicator

/-! ## What the gauges show -/

def recordsGauge : MetricKey := ⟨"catalog_cache_records", []⟩

def categoriesGauge : MetricKey := ⟨"catalog_cache_categories", []⟩

/-- The gauges of a cache show its size. -/
def ShowsSize (r : Replicator) : Prop :=
  r.measurements.shown recordsGauge = Magnitude.nearestNat r.cache.size ∧
    r.measurements.shown categoriesGauge = Magnitude.nearestNat r.cache.categoryCount

/-- They show it exactly, unless it is out of proportion. -/
theorem showsSize_iff {r : Replicator} (hsize : r.cache.size < 2 ^ 53)
    (hcount : r.cache.categoryCount < 2 ^ 53) :
    r.ShowsSize ↔ r.measurements.shown recordsGauge = r.cache.size ∧
      r.measurements.shown categoriesGauge = r.cache.categoryCount := by
  rw [ShowsSize, Magnitude.nearestNat_of_lt hsize, Magnitude.nearestNat_of_lt hcount]

/-- The gauges have been set to the size of the cache as it is. -/
structure Measured (r : Replicator) : Prop where
  records : r.measurements.gauge? recordsGauge = some (Magnitude.nearestNat r.cache.size : Int)
  categories :
    r.measurements.gauge? categoriesGauge = some (Magnitude.nearestNat r.cache.categoryCount : Int)

/-- The gauges have not been set. -/
structure Unmeasured (r : Replicator) : Prop where
  records : r.measurements.gauge? recordsGauge = none
  categories : r.measurements.gauge? categoriesGauge = none

variable {r : Replicator} {m : Measurement}

theorem Measured.showsSize (h : r.Measured) : r.ShowsSize := by
  simp only [ShowsSize, Measurements.shown, h.records, h.categories, Option.getD_some, and_self]

/-- Gauges that have not been set are right about an empty cache only. -/
theorem Unmeasured.showsSize_iff (h : r.Unmeasured) (hreachable : r.cache.Reachable) :
    r.ShowsSize ↔ r.cache.size = 0 := by
  simp only [ShowsSize, Measurements.shown, h.records, h.categories, Option.getD_none]
  constructor
  · rintro ⟨hsize, -⟩
    exact (Magnitude.nearestNat_eq_zero_iff _).mp (Int.ofNat_eq_zero.mp hsize.symm)
  · intro hsize
    rw [hsize, hreachable.categoryCount_eq_zero hsize]
    exact ⟨rfl, rfl⟩

/-- A measurement of something else leaves the gauges as they are. -/
theorem gauge?_measure (h : m.isOfSize = false) :
    (r.measure m).measurements.gauge? recordsGauge = r.measurements.gauge? recordsGauge ∧
      (r.measure m).measurements.gauge? categoriesGauge =
        r.measurements.gauge? categoriesGauge := by
  have hnone : Measurements.gauge? [m] recordsGauge = none ∧
      Measurements.gauge? [m] categoriesGauge = none := by
    cases m with
    | cacheSize => cases h
    | delivered stream redelivered => cases redelivered <;> exact ⟨rfl, rfl⟩
    | _ => exact ⟨rfl, rfl⟩
  simp only [measure, Measurements.gauge?_append, hnone.1, hnone.2, Option.none_or, and_self]

theorem Unmeasured.measure (h : r.Unmeasured) (hm : m.isOfSize = false) :
    (r.measure m).Unmeasured :=
  ⟨(gauge?_measure hm).1.trans h.records, (gauge?_measure hm).2.trans h.categories⟩

theorem measureCache_measured (r : Replicator) : r.measureCache.Measured := by
  constructor
  · simp only [measureCache, measure, Measurements.gauge?_append]
    rfl
  · simp only [measureCache, measure, Measurements.gauge?_append]
    rfl

/-- A change that is applied is not measured yet. -/
theorem Unmeasured.apply (h : r.Unmeasured) {c : Change} {s : Replicator}
    (happly : r.apply c = .ok s) : s.Unmeasured := by
  obtain ⟨e, -, rfl⟩ := exists_of_apply happly
  have hcache : ({ r with cache := e.on r.cache } : Replicator).Unmeasured := ⟨h.1, h.2⟩
  exact hcache.measure rfl

theorem reachable_apply (h : r.cache.Reachable) {c : Change} {s : Replicator}
    (happly : r.apply c = .ok s) : s.cache.Reachable := by
  rw [(apply_eq_ok happly).2]
  exact h.afterEdits _

/-- What a replicator is that has only applied changes, before it replicates. -/
structure Untold (r : Replicator) : Prop where
  unmeasured : r.Unmeasured
  reachable : r.cache.Reachable
  /-- No change concerns a node without catalogs. -/
  foreign : r.domains.contains .catalogs = false → r.cache.size = 0

theorem untold_create (domains : List Domain) : (create domains).Untold where
  unmeasured := ⟨rfl, rfl⟩
  reachable := ⟨[], rfl⟩
  foreign _ := rfl

/-- Nothing is stored on a node without catalogs. -/
theorem edit?_of_foreign {domains : List Domain} (h : domains.contains .catalogs = false)
    (c : Change) : edit? domains c = none := by
  refine edit?_of_isIdle ?_
  by_cases hdomain : c.domain = .catalogs
  · rw [← hdomain] at h
    exact .inl h
  · exact .inr (.inl (by simpa [Domain.isCatalogs] using hdomain))

theorem Untold.apply (h : r.Untold) {c : Change} {s : Replicator} (happly : r.apply c = .ok s) :
    s.Untold := by
  obtain ⟨hdomains, hcache⟩ := apply_eq_ok happly
  refine ⟨h.unmeasured.apply happly, reachable_apply h.reachable happly, fun hforeign => ?_⟩
  rw [hdomains] at hforeign
  rw [hcache, edit?_of_foreign hforeign]
  exact h.foreign hforeign

theorem Untold.applyAll (h : r.Untold) (cs : List Change) : (r.applyAll cs).Untold := by
  induction cs generalizing r with
  | nil => exact h
  | cons c cs ih =>
    cases happly : r.apply c with
    | error f =>
      rw [applyAll_cons_of_error happly]
      exact ih h
    | ok s =>
      rw [applyAll_cons_of_ok happly]
      exact ih (h.apply happly)

/-! ## In the course of a replication -/

namespace Course

/-- Either the gauges tell the size of the cache, or nobody has measured it: then no change
of an event has been applied, and loading came to an end early or there is nothing to be
measured. -/
inductive Tells (c : Course) (loading : Verdict) : Prop where
  | size (measured : c.replicator.Measured) (cause : loading = .ok () ∨ c.calls ≠ [])
  | nothing (unmeasured : c.replicator.Unmeasured) (uncalled : c.calls = [])
      (empty : loading = .ok () → c.replicator.cache.size = 0)

/-- What the gauges tell at a stage. -/
def TellsAt (c : Course) : Stage → Prop
  | .scanning => c.replicator.Untold ∧ c.calls = []
  | .storing _ _ => c.replicator.Unmeasured ∧ c.calls = []
  | .loaded loading | .ready loading | .subscribing loading | .waiting loading => c.Tells loading
  | .acknowledging _ => c.replicator.Measured ∧ c.calls ≠ []
  | .stopped _ => True

/-- What is true of the gauges and the cache at all times. -/
structure Told (c : Course) : Prop where
  reachable : c.replicator.cache.Reachable
  tells : c.TellsAt c.stage

variable {c d : Course} {loading : Verdict}

/-- What does not matter for the gauges may change. -/
theorem Tells.of_eq (h : c.Tells loading)
    (hrecords : d.replicator.measurements.gauge? recordsGauge =
      c.replicator.measurements.gauge? recordsGauge)
    (hcategories : d.replicator.measurements.gauge? categoriesGauge =
      c.replicator.measurements.gauge? categoriesGauge)
    (hcache : d.replicator.cache = c.replicator.cache) (hcalls : d.calls = c.calls) :
    d.Tells loading := by
  rcases h with ⟨measured, cause⟩ | ⟨unmeasured, uncalled, empty⟩
  · refine .size ⟨?_, ?_⟩ (hcalls ▸ cause)
    · rw [hrecords, hcache]
      exact measured.records
    · rw [hcategories, hcache]
      exact measured.categories
  · refine .nothing ⟨?_, ?_⟩ (hcalls.trans uncalled) (hcache ▸ empty)
    · exact hrecords.trans unmeasured.records
    · exact hcategories.trans unmeasured.categories

theorem told_start {r : Replicator} (h : r.Untold) : (start r).Told :=
  ⟨h.reachable, h, rfl⟩

/-- Another measurement, and what else does not matter. -/
theorem Tells.measure (h : c.Tells loading) {r : Replicator} {m : Measurement}
    (hm : m.isOfSize = false) (hmeasurements : r.measurements = c.replicator.measurements)
    (hcache : r.cache = c.replicator.cache) (stage : Stage) :
    Tells ⟨r.measure m, stage, c.calls⟩ loading := by
  obtain ⟨hrecords, hcategories⟩ := gauge?_measure (r := r) hm
  rw [hmeasurements] at hrecords hcategories
  exact h.of_eq hrecords hcategories hcache rfl

/-- What a step leaves of the gauges. -/
theorem Told.step (h : c.Told) {s : Signal} (hstep : c.step s = some d) : d.Told := by
  obtain ⟨reachable, tells⟩ := h
  cases moves_of_step hstep with
  | passed stage foreign =>
    rw [stage] at tells
    exact ⟨reachable, .nothing tells.1.unmeasured tells.2 fun _ => tells.1.foreign foreign⟩
  | scanned found stage =>
    rw [stage] at tells
    cases found with
    | error f => exact ⟨reachable, .nothing tells.1.unmeasured tells.2 nofun⟩
    | ok found => exact ⟨reachable, tells.1.unmeasured, tells.2⟩
  | stored found x rest r stage applied =>
    rw [stage] at tells
    exact ⟨reachable_apply reachable applied, tells.1.apply applied, tells.2⟩
  | unstorable found x rest f stage =>
    -- the records before this one are in the cache, and nobody measures it
    rw [stage] at tells
    exact ⟨reachable, .nothing tells.1 tells.2 nofun⟩
  | allStored found stage => exact ⟨reachable, .size (measureCache_measured _) (.inl rfl)⟩
  | announced loading stage =>
    rw [stage] at tells
    cases loading with
    | ok _ =>
      have hkept := Tells.measure (m := .ready true)
        (r := { c.replicator with isReady := true }) tells rfl rfl rfl (.ready (.ok ()))
      exact ⟨reachable, hkept⟩
    | error f =>
      have hkept := Tells.measure (m := .ready true)
        (r := { c.replicator.notify .bootstrapFailed with isReady := true }) tells rfl rfl rfl
        (.ready (.error f))
      exact ⟨reachable, hkept⟩
  | entered loading stage =>
    rw [stage] at tells
    have hkept := Tells.measure (m := .replicatorState ReplicatorState.streaming.name)
      (r := { c.replicator with state := .streaming }) tells rfl rfl rfl (.subscribing loading)
    exact ⟨reachable, hkept⟩
  | subscribed loading outcome stage =>
    rw [stage] at tells
    cases outcome with
    | ok _ => exact ⟨reachable, Tells.of_eq tells rfl rfl rfl rfl⟩
    | error f => exact ⟨reachable, trivial⟩
  | rejected loading e f stage =>
    rw [stage] at tells
    have hkept := Tells.measure (m := .applyFailed (failureLabel f))
      (r := c.replicator.notify .applyFailed) tells rfl rfl rfl (.waiting loading)
    exact ⟨reachable, hkept⟩
  | taken loading e r stage applied =>
    have hreachable : r.cache.Reachable := reachable_apply reachable applied
    exact ⟨hreachable, measureCache_measured r, List.concat_ne_nil _ _⟩
  | closed loading how stage =>
    cases how with
    | shutdown => exact ⟨reachable, trivial⟩
    | streamEnded => exact ⟨reachable, trivial⟩
  | acknowledged loading outcome stage =>
    rw [stage] at tells
    obtain ⟨measured, called⟩ := tells
    cases outcome with
    | ok _ => exact ⟨reachable, .size measured (.inr called)⟩
    | error f => exact ⟨reachable, .size ⟨measured.records, measured.categories⟩ (.inr called)⟩

theorem Told.run (h : c.Told) {ss : List Signal} (hrun : c.run ss = some d) : d.Told :=
  foldlM_preserves (P := Told) (fun _ _ _ _ hc hstep => hc.step hstep) h hrun

end Course

/-- While a replication waits for the next event, the gauges show the size of the cache if
and only if everything could be loaded, the change of an event has been applied, or there
is no record. So they are wrong after records were loaded that are followed by one that
cannot be stored, and they are so until the first event that is acknowledged. What the
replicator had applied before, for whoever asked it to, does not matter. -/
theorem showsSize_iff_of_waiting (domains : List Domain) (before : List Change)
    {ss : List Signal} {c : Course} {loading : Verdict}
    (hrun : (Course.start ((create domains).applyAll before)).run ss = some c)
    (hwaiting : c.stage = .waiting loading) :
    c.replicator.ShowsSize ↔
      loading = .ok () ∨ c.calls ≠ [] ∨ c.replicator.cache.size = 0 := by
  have htold : c.Told := (Course.told_start ((untold_create domains).applyAll before)).run hrun
  obtain ⟨reachable, tells⟩ := htold
  rw [hwaiting] at tells
  rcases tells with ⟨measured, cause⟩ | ⟨unmeasured, uncalled, empty⟩
  · refine iff_of_true measured.showsSize ?_
    rcases cause with hloaded | hcalled
    · exact .inl hloaded
    · exact .inr (.inl hcalled)
  · rw [unmeasured.showsSize_iff reachable]
    constructor
    · intro hsize
      exact .inr (.inr hsize)
    · rintro (hloaded | hcalled | hsize)
      · exact empty hloaded
      · exact absurd uncalled hcalled
      · exact hsize

/-! ## A record that cannot be stored -/

/-- A book. -/
def emma : Record := { Record.ofId "emma" with category := "books" }

/-- The store holds a book and a record without an id. -/
def partlyLoaded : List Signal := [
  .scanned (.ok [emma, .ofId ""]), .store, .store, .announce, .enter, .subscribed (.ok ())]

/-- The book is deleted, and the acknowledgement of that fails. -/
def thenDeleted : List Signal := partlyLoaded ++ [
  .received ⟨.zero, .delete "emma"⟩, .acknowledged (.error .noConnection)]

/-- With the first event the gauges become right, whatever comes of its acknowledgement. -/
theorem shown_after_first_event :
    ∃ c, (Course.start (create [.catalogs])).run thenDeleted = some c ∧
      c.stage = .waiting (.error (.invalidChange .upsertWithoutId)) ∧
      c.replicator.ShowsSize := by
  obtain ⟨c, hrun, hwaiting, hcalled⟩ :
      ∃ c, (Course.start (create [.catalogs])).run thenDeleted = some c ∧
        c.stage = .waiting (.error (.invalidChange .upsertWithoutId)) ∧ c.calls ≠ [] :=
    ⟨_, rfl, rfl, List.concat_ne_nil _ _⟩
  exact ⟨c, hrun, hwaiting,
    (showsSize_iff_of_waiting [.catalogs] [] hrun hwaiting).mpr (.inr (.inl hcalled))⟩

/-- It is not so that the gauges show the size of the cache whenever a replication waits for
the next event. -/
theorem partly_loaded_not_shown :
    ¬ ∀ (domains : List Domain) (ss : List Signal) (c : Course) (loading : Verdict),
      (Course.start (create domains)).run ss = some c → c.stage = .waiting loading →
      c.replicator.measurements.shown recordsGauge = c.replicator.cache.size ∧
        c.replicator.measurements.shown categoriesGauge = c.replicator.cache.categoryCount := by
  intro h
  have hshown := h [.catalogs] partlyLoaded _ _ rfl rfl
  -- there is one record, and the gauges have not been set
  exact absurd hshown (by decide +kernel)

end Replicator
end CatalogReplica
