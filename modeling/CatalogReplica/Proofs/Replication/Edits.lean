/-
# CatalogReplica.Proofs.Replication.Edits -- what a replicator does to its cache

A replicator does many things when it handles an event, but the cache sees at
most one edit of it, and which one that is depends on the change and the
configured domains alone: not on the state of the replicator, and not on what
becomes of the acknowledgement. A run of events is therefore a history of edits,
read off the changes, and so is loading, up to the first record without an id.
-/
import CatalogReplica.Proofs.Cache.Answers
import CatalogReplica.Replicator

namespace CatalogReplica.Replicator

open Cache (Edit)

/-- The edit that a change asks for, if it asks for one that can be made. -/
def edit? (domains : List Domain) (c : Change) : Option Edit :=
  match effect domains c with
  | .ok (.stored r) => some (.upsert r)
  | .ok (.removed id) => some (.remove id)
  | _ => none

/-! ## Handling events -/

/-- To apply a change is to take its effect on the cache, and to measure it. -/
theorem exists_of_apply {r s : Replicator} {c : Change} (h : r.apply c = .ok s) :
    ∃ e, effect r.domains c = .ok e ∧
      s = { r with cache := e.on r.cache }.measure (.applied c.action.name e.label) := by
  unfold apply at h
  cases heffect : effect r.domains c with
  | error f =>
    rw [heffect] at h
    cases h
  | ok e =>
    rw [heffect] at h
    exact ⟨e, rfl, (Except.ok.inj h).symm⟩

theorem apply_eq_ok {r s : Replicator} {c : Change} (h : r.apply c = .ok s) :
    s.domains = r.domains ∧ s.cache = r.cache.afterEdits (edit? r.domains c).toList := by
  obtain ⟨e, heffect, rfl⟩ := exists_of_apply h
  unfold edit?
  rw [heffect]
  cases e <;> exact ⟨rfl, rfl⟩

theorem edit?_of_apply_eq_error {r : Replicator} {c : Change} {f : Failure}
    (h : r.apply c = .error f) : edit? r.domains c = none := by
  unfold apply at h
  unfold edit?
  cases heffect : effect r.domains c with
  | error g => rfl
  | ok e => simp [heffect, Except.map] at h

@[simp]
theorem handle_domains (r : Replicator) (e : Event) (ack : Verdict) :
    (r.handle e ack).2.domains = r.domains := by
  unfold handle
  cases h : r.apply e.change with
  | error f => rfl
  | ok s => cases ack <;> exact (apply_eq_ok h).1

@[simp]
theorem handle_cache (r : Replicator) (e : Event) (ack : Verdict) :
    (r.handle e ack).2.cache = r.cache.afterEdits (edit? r.domains e.change).toList := by
  unfold handle
  cases h : r.apply e.change with
  | error f =>
    rw [edit?_of_apply_eq_error h]
    rfl
  | ok s => cases ack <;> exact (apply_eq_ok h).2

/-- Handling events makes the edits that their changes ask for, in order. -/
theorem handleAll_cache (r : Replicator) (events : List (Event × Verdict)) :
    (r.handleAll events).cache =
      r.cache.afterEdits (events.filterMap fun d => edit? r.domains d.1.change) := by
  induction events generalizing r with
  | nil => rfl
  | cons d events ih =>
    obtain ⟨e, ack⟩ := d
    have hstep : r.handleAll ((e, ack) :: events) = (r.handle e ack).2.handleAll events := rfl
    rw [hstep, ih, handle_domains, handle_cache, ← Cache.afterEdits_append]
    cases h : edit? r.domains e.change <;> simp [h]

/-! ## Loading -/

/-- A record can be loaded unless it has no id. -/
theorem edit?_upsert {domains : List Domain} (h : domains.contains .catalogs = true) (x : Record) :
    edit? domains (.upsert x) = if x.id.isEmpty then none else some (.upsert x) := by
  unfold edit? effect
  simp only [Change.upsert, h, Domain.isCatalogs, beq_self_eq_true, Bool.and_self, ↓reduceIte]
  cases x.id.isEmpty <;> rfl

theorem apply_upsert_isOk {r : Replicator} (h : r.domains.contains .catalogs = true) {x : Record}
    (hx : x.id.isEmpty = false) : ∃ s, r.apply (.upsert x) = .ok s := by
  unfold apply effect
  simp only [Change.upsert, h, Domain.isCatalogs, beq_self_eq_true, Bool.and_self, ↓reduceIte, hx]
  exact ⟨_, rfl⟩

/-- Loading records that all have ids succeeds, and stores each of them. -/
theorem load_eq_ok {r : Replicator} (h : r.domains.contains .catalogs = true)
    {xs : List Record} (hxs : ∀ x ∈ xs, x.id.isEmpty = false) :
    (r.load xs).1 = .ok () ∧ (r.load xs).2.domains = r.domains ∧
      (r.load xs).2.cache = r.cache.afterEdits (xs.map .upsert) := by
  induction xs generalizing r with
  | nil => exact ⟨rfl, rfl, rfl⟩
  | cons x xs ih =>
    have hx : x.id.isEmpty = false := hxs x List.mem_cons_self
    obtain ⟨s, hs⟩ := apply_upsert_isOk h hx
    obtain ⟨hdomains, hcache⟩ := apply_eq_ok hs
    rw [edit?_upsert h, hx] at hcache
    have hload : r.load (x :: xs) = s.load xs := by
      rw [load, hs]
    obtain ⟨hok, hds, hcs⟩ := ih (r := s) (hdomains ▸ h) fun y hy =>
      hxs y (List.mem_cons_of_mem x hy)
    rw [hload, hcs, hcache, hds, hdomains]
    exact ⟨hok, rfl, rfl⟩

/-- A replication begins with what the scan of the store found, or with nothing. -/
theorem begin_cache {r : Replicator} (h : r.domains.contains .catalogs = true)
    {scan : Except Failure (List Record)}
    (hscan : ∀ found, scan = .ok found → ∀ x ∈ found, x.id.isEmpty = false) :
    (r.begin scan).2.domains = r.domains ∧
      ∃ found, (found = [] ∨ scan = .ok found) ∧
        (r.begin scan).2.cache = r.cache.afterEdits (found.map .upsert) := by
  unfold begin bootstrap
  rw [if_pos h]
  cases scan with
  | error f => exact ⟨rfl, [], .inl rfl, rfl⟩
  | ok found =>
    obtain ⟨hok, hdomains, hcache⟩ := load_eq_ok h (hscan found rfl)
    cases hload : r.load found with
    | mk verdict s =>
      rw [hload] at hok hdomains hcache
      cases hok
      simp only [hload]
      exact ⟨hdomains, found, .inr rfl, hcache⟩

end CatalogReplica.Replicator
