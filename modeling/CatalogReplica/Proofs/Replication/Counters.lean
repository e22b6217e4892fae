/-
# CatalogReplica.Proofs.Replication.Counters -- what the counters of a replication count

Records and events are counted alike when they are applied. An event that cannot be applied
is counted as failed instead; a record that cannot be applied is not counted at all. The
records of the bootstrap have a counter of their own, which goes up only at the end, and by
the number of all records that were found.
-/
import CatalogReplica.Proofs.Metrics.Values
import CatalogReplica.Proofs.Replication.Course
import CatalogReplica.Proofs.Replication.Edits

namespace CatalogReplica.Replicator

/-! ## The counters -/

def appliedNames : List String := ["catalog_events_applied_total"]

def failedNames : List String := ["catalog_events_failed_total"]

def bootstrapNames : List String := ["catalog_bootstrap_records_total"]

namespace Course

/-! ## What happens in a step -/

/-- A record of the bootstrap is applied. -/
def appliesRecord (p : Passage Course Signal) : Bool :=
  match p.act, p.before.stage with
  | .store, .storing _ (x :: _) => (p.before.replicator.apply (.upsert x)).isOk
  | _, _ => false

/-- An event is processed. -/
def takesEvent (p : Passage Course Signal) : Bool :=
  match p.act with
  | .received _ => true
  | _ => false

/-- The change of an event cannot be applied. -/
def failsEvent (p : Passage Course Signal) : Bool :=
  match p.act with
  | .received e => !(p.before.replicator.apply e.change).isOk
  | _ => false

/-- The whole bootstrap succeeds. -/
def succeeds (p : Passage Course Signal) : Bool :=
  match p.after.stage with
  | .loaded (.ok ()) => true
  | _ => false

/-- How many records a scan has found. -/
def found : Signal → Nat
  | .scanned (.ok records) => records.length
  | _ => 0

/-- What has happened in a run. -/
def passages (c : Course) (ss : List Signal) : List (Passage Course Signal) :=
  CatalogReplica.passages step c ss

variable {c d : Course} {s : Signal}

/-! ## One step -/

/-- How many records a stage goes on from. -/
def inHand : Stage → Nat
  | .storing n _ => n
  | _ => 0

/-- What a step counts: a record or an event that is applied, an event that is not, and all
the records of the bootstrap if it succeeds. -/
structure Counts (c d : Course) (s : Signal) : Prop where
  handled : d.replicator.measurements.added (appliedNames ++ failedNames) =
    c.replicator.measurements.added (appliedNames ++ failedNames) +
      if appliesRecord ⟨c, s, d⟩ || takesEvent ⟨c, s, d⟩ then 1 else 0
  failed : d.replicator.measurements.added failedNames =
    c.replicator.measurements.added failedNames + if failsEvent ⟨c, s, d⟩ then 1 else 0
  bootstrapped : d.replicator.measurements.added bootstrapNames =
    c.replicator.measurements.added bootstrapNames +
      if succeeds ⟨c, s, d⟩ then inHand c.stage else 0

theorem Counts.of_append (ms : Measurements)
    (hmeasurements : d.replicator.measurements = c.replicator.measurements ++ ms)
    (hhandled : ms.added (appliedNames ++ failedNames) =
      if appliesRecord ⟨c, s, d⟩ || takesEvent ⟨c, s, d⟩ then 1 else 0)
    (hfailed : ms.added failedNames = if failsEvent ⟨c, s, d⟩ then 1 else 0)
    (hbootstrapped : ms.added bootstrapNames =
      if succeeds ⟨c, s, d⟩ then inHand c.stage else 0) : Counts c d s where
  handled := by rw [hmeasurements, Measurements.added_append, hhandled]
  failed := by rw [hmeasurements, Measurements.added_append, hfailed]
  bootstrapped := by rw [hmeasurements, Measurements.added_append, hbootstrapped]

theorem measurements_apply {r r' : Replicator} {x : Change} (h : r.apply x = .ok r') :
    ∃ label, r'.measurements = r.measurements ++ [.applied x.action.name label] := by
  obtain ⟨e, -, rfl⟩ := exists_of_apply h
  exact ⟨e.label, rfl⟩

theorem measurements_close (c : Course) (loading streaming : Verdict) :
    (c.close loading streaming).replicator.measurements =
      c.replicator.measurements ++ [.replicatorState ReplicatorState.stopped.name] := by
  cases streaming <;> rfl

theorem counts_step (h : c.step s = some d) : Counts c d s := by
  obtain ⟨r, st, calls⟩ := c
  cases moves_of_step h with
  | passed stage =>
    cases stage
    exact .of_append [] (List.append_nil _).symm rfl rfl rfl
  | scanned found stage =>
    cases stage
    cases found <;> exact .of_append [] (List.append_nil _).symm rfl rfl rfl
  | stored found x rest r stage applied =>
    cases stage
    obtain ⟨label, hmeasurements⟩ := measurements_apply applied
    refine .of_append _ hmeasurements ?_ rfl rfl
    simp only [appliesRecord, applied]
    rfl
  | unstorable found x rest f stage failed =>
    cases stage
    refine .of_append [] (List.append_nil _).symm ?_ rfl rfl
    simp only [appliesRecord, failed]
    rfl
  | allStored found stage =>
    cases stage
    exact .of_append _ (List.append_assoc ..) rfl rfl rfl
  | announced loading stage =>
    cases stage
    cases loading <;> exact .of_append [.ready true] rfl rfl rfl rfl
  | entered loading stage =>
    cases stage
    exact .of_append [.replicatorState _] rfl rfl rfl rfl
  | subscribed loading outcome stage =>
    cases stage
    cases outcome with
    | ok _ => exact .of_append [] (List.append_nil _).symm rfl rfl rfl
    | error f => exact .of_append _ (measurements_close _ _ _) rfl rfl rfl
  | rejected loading e f stage failed =>
    cases stage
    refine .of_append [.applyFailed _] rfl rfl ?_ rfl
    simp only [failsEvent, failed]
    rfl
  | taken loading e r' stage applied =>
    cases stage
    obtain ⟨label, hmeasurements⟩ := measurements_apply applied
    have hcounted : r'.measureCache.measurements = r.measurements ++
        [.applied e.change.action.name label,
          .cacheSize r'.cache.size r'.cache.categoryCount] := by
      show r'.measurements ++ [_] = _
      rw [hmeasurements, List.append_assoc]
      rfl
    refine .of_append _ hcounted rfl ?_ rfl
    simp only [failsEvent, applied]
    rfl
  | closed loading how stage =>
    cases stage
    exact .of_append _ (measurements_close _ _ _) rfl rfl rfl
  | acknowledged loading outcome stage =>
    cases stage
    cases outcome <;> exact .of_append [] (List.append_nil _).symm rfl rfl rfl

/-! ## A whole run -/

variable {r : Replicator} {ss : List Signal}

/-- A step does not handle both a record and an event. -/
theorem countP_handled (ps : List (Passage Course Signal)) :
    (ps.countP fun p => appliesRecord p || takesEvent p) =
      ps.countP appliesRecord + ps.countP takesEvent := by
  have hapart (p : Passage Course Signal) (h : takesEvent p = true) : appliesRecord p = false := by
    obtain ⟨c, s, d⟩ := p
    cases s with
    | received e => rfl
    | _ => cases h
  induction ps with
  | nil => rfl
  | cons p ps ih =>
    simp only [List.countP_cons, ih]
    cases hevent : takesEvent p with
    | true =>
      simp only [hapart p hevent, Bool.or_true, if_true, Bool.false_eq_true, if_false]
      omega
    | false =>
      simp only [Bool.or_false, Bool.false_eq_true, if_false]
      omega

/-- What is counted of the bootstrap when so many records have been found, and when it has
succeeded or has not. -/
def Booked (concerned : Bool) (total : Nat) (succeeded : Bool) (c : Course) : Prop :=
  match c.stage with
  | .scanning => total = 0 ∧ succeeded = false ∧
    c.replicator.measurements.added bootstrapNames = 0
  | .storing n _ => concerned = true ∧ total = n ∧ succeeded = false ∧
    c.replicator.measurements.added bootstrapNames = 0
  | _ => c.replicator.measurements.added bootstrapNames =
    if concerned && succeeded then total else 0

theorem domains_step (h : c.step s = some d) : d.replicator.domains = c.replicator.domains := by
  cases moves_of_step h with
  | stored _ _ _ _ _ applied => exact (apply_eq_ok applied).1
  | taken _ _ _ _ applied => exact (apply_eq_ok applied).1
  | announced loading => cases loading <;> rfl
  | subscribed loading outcome => cases outcome <;> rfl
  | closed loading how => cases how <;> rfl
  | acknowledged loading outcome => cases outcome <;> rfl
  | _ => rfl

theorem booked_step {total : Nat} {succeeded : Bool}
    (h : Booked (c.replicator.domains.contains .catalogs) total succeeded c)
    (hstep : c.step s = some d) :
    Booked (d.replicator.domains.contains .catalogs) (total + found s)
      (succeeds ⟨c, s, d⟩ || succeeded) d := by
  have hcounts := (counts_step hstep).bootstrapped
  rw [domains_step hstep]
  obtain ⟨r, st, calls⟩ := c
  cases moves_of_step hstep with
  | passed stage foreign =>
    cases stage
    obtain ⟨rfl, rfl, hadded⟩ := h
    rw [foreign]
    exact hcounts.trans hadded
  | scanned found stage concerned =>
    cases stage
    obtain ⟨rfl, rfl, hadded⟩ := h
    cases found with
    | error f =>
      refine (hcounts.trans hadded).trans ?_
      simp [succeeds, Stage.ofScan]
    | ok records => exact ⟨concerned, Nat.zero_add _, rfl, hcounts.trans hadded⟩
  | stored n x rest r' stage applied =>
    cases stage
    obtain ⟨hconcerned, htotal, rfl, hadded⟩ := h
    exact ⟨hconcerned, htotal, rfl, hcounts.trans hadded⟩
  | unstorable n x rest f stage failed =>
    cases stage
    obtain ⟨-, -, rfl, hadded⟩ := h
    refine (hcounts.trans hadded).trans ?_
    simp [succeeds]
  | allStored n stage =>
    cases stage
    obtain ⟨hconcerned, rfl, rfl, hadded⟩ := h
    rw [hadded] at hcounts
    rw [hconcerned]
    exact hcounts.trans (Nat.zero_add _)
  | subscribed loading outcome stage =>
    cases stage
    cases outcome <;> exact hcounts.trans h
  -- from then on nothing is counted of the bootstrap
  | announced loading stage =>
    cases stage
    exact hcounts.trans h
  | entered loading stage =>
    cases stage
    exact hcounts.trans h
  | rejected loading e f stage failed =>
    cases stage
    exact hcounts.trans h
  | taken loading e r' stage applied =>
    cases stage
    exact hcounts.trans h
  | closed loading how stage =>
    cases stage
    exact hcounts.trans h
  | acknowledged loading outcome stage =>
    cases stage
    exact hcounts.trans h

theorem booked_run (hnew : r.measurements.added bootstrapNames = 0)
    (hrun : (start r).run ss = some c) :
    Booked (c.replicator.domains.contains .catalogs) (ss.map found).sum
      (((start r).passages ss).any succeeds) c := by
  refine foldlM_history (P := fun ss c =>
    Booked (c.replicator.domains.contains .catalogs) (ss.map found).sum
      (((start r).passages ss).any succeeds) c) ?_ ?_ hrun
  case refine_2 => exact ⟨rfl, rfl, hnew⟩
  intro ss s c d hrun hbooked hstep
  have hpassages : (start r).passages (ss ++ [s]) = (start r).passages ss ++ [⟨c, s, d⟩] := by
    rw [passages, passages_append hrun, passages_cons hstep]
    rfl
  have hany : ((start r).passages (ss ++ [s])).any succeeds =
      (succeeds ⟨c, s, d⟩ || ((start r).passages ss).any succeeds) := by
    rw [hpassages, List.any_append, Bool.or_comm, List.any_cons, List.any_nil, Bool.or_false]
  have htotal : ((ss ++ [s]).map found).sum = (ss.map found).sum + found s := by
    rw [List.map_append, List.sum_append, List.map_singleton, List.sum_singleton]
  rw [hany, htotal]
  exact booked_step hbooked hstep

theorem domains_run (hrun : c.run ss = some d) : d.replicator.domains = c.replicator.domains :=
  foldlM_preserves (P := fun e => e.replicator.domains = c.replicator.domains)
    (fun _ _ _ _ hsame hstep => (domains_step hstep).trans hsame) rfl hrun

/-- The records of the bootstrap are counted when all of them have been stored, all at once,
and not at all otherwise. -/
theorem bootstrapped_run (hnew : r.measurements.added bootstrapNames = 0)
    (hrun : (start r).run ss = some c) :
    c.replicator.measurements.added bootstrapNames =
      if r.domains.contains .catalogs && ((start r).passages ss).any succeeds then
        (ss.map found).sum
      else 0 := by
  have hbooked := booked_run hnew hrun
  rw [domains_run hrun] at hbooked
  have hdomains : (start r).replicator.domains = r.domains := rfl
  rw [hdomains] at hbooked
  obtain ⟨r', st, calls⟩ := c
  cases st with
  | scanning =>
    obtain ⟨-, hnone, hadded⟩ := hbooked
    rw [hnone, Bool.and_false]
    exact hadded
  | storing n rest =>
    obtain ⟨-, -, hnone, hadded⟩ := hbooked
    rw [hnone, Bool.and_false]
    exact hadded
  | _ => exact hbooked

/-! ## From the beginning -/

section New

variable {domains : List Domain}

/-- The counters with these names show how many steps of a kind there were, if each step of this
kind adds one and no other step adds anything. -/
theorem shows_counted (hrun : (start (create domains)).run ss = some c) {names : List String}
    {isOfKind : Passage Course Signal → Bool}
    (hstep : ∀ {c d : Course} {s : Signal}, Counts c d s →
      d.replicator.measurements.added names =
        c.replicator.measurements.added names + if isOfKind ⟨c, s, d⟩ then 1 else 0) :
    c.replicator.measurements.Shows names
      (((start (create domains)).passages ss).countP isOfKind) := by
  have hadded : c.replicator.measurements.added names =
      0 + ((start (create domains)).passages ss).countP isOfKind := by
    refine foldlM_counts (P := fun _ => True)
      (f := fun c => c.replicator.measurements.added names) ?_ ?_ trivial hrun
    · exact fun _ _ _ _ _ => trivial
    · exact fun _ _ _ _ hmove => hstep (counts_step hmove)
  rw [Nat.zero_add] at hadded
  rw [← hadded]
  exact Measurements.shows_added _ _

/-- What is handled counts as applied or as failed. -/
theorem shows_handled (hrun : (start (create domains)).run ss = some c) :
    c.replicator.measurements.Shows (appliedNames ++ failedNames)
      (((start (create domains)).passages ss).countP appliesRecord +
        ((start (create domains)).passages ss).countP takesEvent) := by
  rw [← countP_handled]
  exact shows_counted hrun fun hcounts => hcounts.handled

theorem shows_failed (hrun : (start (create domains)).run ss = some c) :
    c.replicator.measurements.Shows failedNames
      (((start (create domains)).passages ss).countP failsEvent) :=
  shows_counted hrun fun hcounts => hcounts.failed

theorem shows_bootstrapped (hrun : (start (create domains)).run ss = some c) :
    c.replicator.measurements.Shows bootstrapNames
      (if domains.contains .catalogs && ((start (create domains)).passages ss).any succeeds then
        (ss.map found).sum
      else 0) := by
  have hadded := bootstrapped_run (r := create domains) rfl hrun
  have hdomains : (create domains).domains = domains := rfl
  rw [hdomains] at hadded
  rw [← hadded]
  exact Measurements.shows_added _ _

end New

end Course
end CatalogReplica.Replicator
