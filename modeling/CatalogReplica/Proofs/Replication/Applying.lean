/-
# CatalogReplica.Proofs.Replication.Applying -- what a replication comes to

Loading and handling events both apply changes in order, and both pass over those that
cannot be applied, except that loading stops there. So the cache that a replication
leaves is that of applying one list of changes: the records up to the first without an
id, and then what the events brought. The verdict tells of the first of three failures
in an order that is not that of time: the queue, the end of the stream, and loading.
-/
import CatalogReplica.Proofs.Replication.Edits

namespace CatalogReplica.Replicator

/-! ## Applying changes in order -/

/-- Applies changes in order, and passes over those that cannot be applied. -/
def applyAll (r : Replicator) (cs : List Change) : Replicator :=
  cs.foldl (fun r c => match r.apply c with
    | .ok s => s
    | .error _ => r) r

theorem applyAll_cons_of_ok {r s : Replicator} {c : Change} (h : r.apply c = .ok s)
    (cs : List Change) : r.applyAll (c :: cs) = s.applyAll cs := by
  simp only [applyAll, List.foldl_cons, h]

theorem applyAll_cons_of_error {r : Replicator} {c : Change} {f : Failure}
    (h : r.apply c = .error f) (cs : List Change) : r.applyAll (c :: cs) = r.applyAll cs := by
  simp only [applyAll, List.foldl_cons, h]

@[simp]
theorem applyAll_domains (r : Replicator) (cs : List Change) :
    (r.applyAll cs).domains = r.domains := by
  induction cs generalizing r with
  | nil => rfl
  | cons c cs ih =>
    cases happly : r.apply c with
    | error f => rw [applyAll_cons_of_error happly, ih]
    | ok s => rw [applyAll_cons_of_ok happly, ih, (apply_eq_ok happly).1]

/-- What becomes of the cache is what the edits make of it that the changes ask for. -/
theorem applyAll_cache (r : Replicator) (cs : List Change) :
    (r.applyAll cs).cache = r.cache.afterEdits (cs.filterMap (edit? r.domains)) := by
  induction cs generalizing r with
  | nil => rfl
  | cons c cs ih =>
    cases happly : r.apply c with
    | error f =>
      rw [applyAll_cons_of_error happly, ih,
        List.filterMap_cons_none (edit?_of_apply_eq_error happly)]
    | ok s =>
      obtain ⟨hdomains, hcache⟩ := apply_eq_ok happly
      rw [applyAll_cons_of_ok happly, ih, hdomains, hcache, ← Cache.afterEdits_append]
      cases hedit : edit? r.domains c <;> simp [hedit]

/-- A change that leaves every cache as it is: it is of a domain that does not concern
the node, it is without a record, or it would store a record without an id. -/
def IsIdle (domains : List Domain) (c : Change) : Prop :=
  domains.contains c.domain = false ∨ c.domain.isCatalogs = false ∨ c.record = none ∨
    (c.action = .upsert ∧ ∃ x, c.record = some x ∧ x.id.isEmpty = true)

theorem edit?_of_isIdle {domains : List Domain} {c : Change} (h : IsIdle domains c) :
    edit? domains c = none := by
  obtain ⟨domain, action, record, timestamp⟩ := c
  unfold edit? effect
  rcases h with h | h | h | ⟨haction, x, hrecord, hid⟩
  · simp only [h, Bool.false_and, Bool.false_eq_true, ↓reduceIte]
  · simp only [h, Bool.and_false, Bool.false_eq_true, ↓reduceIte]
  · cases h
    cases domains.contains domain && domain.isCatalogs <;> rfl
  · cases haction
    cases hrecord
    cases domains.contains domain && domain.isCatalogs <;> simp [hid]

/-- A change that is idle might as well not have come. -/
theorem applyAll_cache_of_isIdle (r : Replicator) {c : Change} (h : IsIdle r.domains c)
    (before after : List Change) :
    (r.applyAll (before ++ c :: after)).cache = (r.applyAll (before ++ after)).cache := by
  rw [applyAll_cache, applyAll_cache, List.filterMap_append,
    List.filterMap_cons_none (edit?_of_isIdle h), ← List.filterMap_append]

/-- Whether a change can be applied depends on the domains alone. -/
theorem isOk_apply (r : Replicator) (c : Change) :
    (r.apply c).isOk = (effect r.domains c).isOk := by
  unfold apply
  cases effect r.domains c <;> rfl

/-! ## Loading -/

/-- A record that can be stored: it has an id. -/
def named (x : Record) : Bool := !x.id.isEmpty

/-- The records that get stored: all up to the first without an id, if they were found
at all. -/
def loadable (domains : List Domain) (scan : Except Failure (List Record)) : List Record :=
  if domains.contains .catalogs then
    match scan with
    | .error _ => []
    | .ok found => found.takeWhile named
  else []

/-- What loading comes to. -/
def loadingVerdict (domains : List Domain) (scan : Except Failure (List Record)) : Verdict :=
  if domains.contains .catalogs then
    match scan with
    | .error f => .error f
    | .ok found =>
      if found.all named then .ok () else .error (.invalidChange .upsertWithoutId)
  else .ok ()

theorem apply_upsert_unnamed {r : Replicator} (h : r.domains.contains .catalogs = true)
    {x : Record} (hx : named x = false) :
    r.apply (.upsert x) = .error (.invalidChange .upsertWithoutId) := by
  have hid : x.id.isEmpty = true := by simpa [named] using hx
  unfold apply effect
  simp only [Change.upsert, h, Domain.isCatalogs, beq_self_eq_true, Bool.and_self, ↓reduceIte,
    hid]
  rfl

theorem apply_upsert_named {r : Replicator} (h : r.domains.contains .catalogs = true)
    {x : Record} (hx : named x = true) :
    ∃ s, r.apply (.upsert x) = .ok s ∧ s.domains.contains .catalogs = true := by
  obtain ⟨s, hs⟩ := apply_upsert_isOk h (x := x) (by simpa [named] using hx)
  exact ⟨s, hs, (apply_eq_ok hs).1 ▸ h⟩

/-- Loading stores the records before the first without an id, and fails if there is
one. -/
theorem load_eq {r : Replicator} (h : r.domains.contains .catalogs = true) (xs : List Record) :
    r.load xs =
      (if xs.all named then .ok () else .error (.invalidChange .upsertWithoutId),
        r.applyAll ((xs.takeWhile named).map .upsert)) := by
  induction xs generalizing r with
  | nil => rfl
  | cons x xs ih =>
    cases hx : named x with
    | false =>
      rw [load, apply_upsert_unnamed h hx]
      simp [hx, applyAll]
    | true =>
      obtain ⟨s, hs, hcatalogs⟩ := apply_upsert_named h hx
      rw [load, hs]
      simp only [ih hcatalogs, List.all_cons, hx, Bool.true_and, List.takeWhile_cons_of_pos,
        List.map_cons, applyAll_cons_of_ok hs]

theorem bootstrap_spec (r : Replicator) (scan : Except Failure (List Record)) :
    (r.bootstrap scan).1 = loadingVerdict r.domains scan ∧
      (r.bootstrap scan).2.domains = r.domains ∧
      (r.bootstrap scan).2.cache =
        (r.applyAll ((loadable r.domains scan).map .upsert)).cache := by
  unfold bootstrap loadingVerdict loadable
  split
  case isFalse => exact ⟨rfl, rfl, rfl⟩
  case isTrue h =>
    cases scan with
    | error f => exact ⟨rfl, rfl, rfl⟩
    | ok found =>
      have hdomains := applyAll_domains r ((found.takeWhile named).map .upsert)
      simp only [load_eq h]
      cases found.all named <;> exact ⟨rfl, hdomains, rfl⟩

/-- A replication begins with what could be loaded. -/
theorem begin_spec (r : Replicator) (scan : Except Failure (List Record)) :
    (r.begin scan).1 = loadingVerdict r.domains scan ∧
      (r.begin scan).2.domains = r.domains ∧
      (r.begin scan).2.cache = (r.applyAll ((loadable r.domains scan).map .upsert)).cache := by
  obtain ⟨hverdict, hdomains, hcache⟩ := bootstrap_spec r scan
  unfold begin
  cases hloaded : r.bootstrap scan with
  | mk verdict s =>
    rw [hloaded] at hverdict hdomains hcache
    cases verdict <;> exact ⟨hverdict, hdomains, hcache⟩

/-! ## A whole replication -/

/-- The events that are handled: none unless the queue could be subscribed to. -/
def handled (subscribed : Verdict) (events : List (Event × Verdict)) : List Event :=
  match subscribed with
  | .error _ => []
  | .ok () => events.map Prod.fst

theorem finish_cache (r : Replicator) (loading streaming : Verdict) :
    (r.finish loading streaming).2.cache = r.cache := by
  cases streaming <;> rfl

/-- The cache is that of applying what was loaded and then what was handled. -/
theorem replicate_cache (r : Replicator) (scan : Except Failure (List Record))
    (subscribed : Verdict) (events : List (Event × Verdict)) (ending : Ending) :
    (r.replicate scan subscribed events ending).2.cache =
      (r.applyAll ((loadable r.domains scan).map .upsert ++
        (handled subscribed events).map Event.change)).cache := by
  obtain ⟨-, hdomains, hcache⟩ := begin_spec r scan
  unfold replicate
  rw [applyAll_cache, List.filterMap_append, Cache.afterEdits_append, ← applyAll_cache,
    ← hcache]
  cases subscribed with
  | error f => exact finish_cache _ _ _
  | ok _ =>
    simp only [finish_cache, handleAll_cache, hdomains, handled, List.map_map,
      List.filterMap_map]
    rfl

/-- A failure to subscribe comes before the end of the stream, and that before what
loading came to. -/
theorem replicate_verdict (r : Replicator) (scan : Except Failure (List Record))
    (subscribed : Verdict) (events : List (Event × Verdict)) (ending : Ending) :
    (r.replicate scan subscribed events ending).1 =
      match subscribed, ending with
      | .error f, _ => .error f
      | .ok (), .streamEnded => .error .streamClosed
      | .ok (), .shutdown => loadingVerdict r.domains scan := by
  obtain ⟨hverdict, -, -⟩ := begin_spec r scan
  unfold replicate
  cases subscribed with
  | error f => rfl
  | ok _ =>
    cases ending with
    | streamEnded => rfl
    | shutdown => exact hverdict

end CatalogReplica.Replicator
