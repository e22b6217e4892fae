/-
# CatalogReplica.Proofs.Replication.WriteThrough -- writes reach every cache

A node that joins loads what it can of the store and then applies the log from its
beginning. On the way its cache goes back to versions, categories and records that
the store has long given up, but what it ends with does not depend on what was
loaded: every id of the store has been written, so the log has a last word about
it, and that word is the store's own.
-/
import CatalogReplica.Proofs.Replication.Edits
import CatalogReplica.Proofs.Service.Writing

namespace CatalogReplica

namespace Service

open Cache (Edit lastSaid?)
open Replicator (edit?)

variable {domains : List Domain}

/-- The edits that the published changes ask for. -/
def History.edits (domains : List Domain) (h : History) : List Edit :=
  h.taken.filterMap fun (_, t) => edit? domains t.change

/-- The edit that the change of a write asks for. -/
theorem Leaves.edit? (hcatalogs : domains.contains .catalogs = true) {s : Store}
    {freshId : String} {w : Write} {t : Taken} (h : Leaves s freshId w t) :
    edit? domains t.change = some (match w.action with
      | .upsert => .upsert t.record
      | .delete => .remove (w.target freshId)) := by
  rw [h.change]
  cases w.action with
  | upsert =>
    have hnamed : t.record.id.isEmpty = false := h.record_id ▸ h.named
    simp [Replicator.edit?_upsert hcatalogs, hnamed]
  | delete =>
    unfold Replicator.edit? Replicator.effect
    simp only [Change.delete, hcatalogs, Domain.isCatalogs, beq_self_eq_true, Bool.and_self,
      ↓reduceIte]
    rfl

/-- The store and the log say the same about every id: nothing about one that was
never written, the current record of one that was last created or updated, and
that one is gone which was last deleted. -/
structure History.Faithful (domains : List Domain) (h : History) : Prop where
  sound : h.store.Sound
  untouched : ∀ {id}, h.lastAction? id = none →
    h.store.get? id = none ∧ lastSaid? id (h.edits domains) = none
  stored : ∀ {id}, h.lastAction? id = some .upsert →
    ∃ r, h.store.get? id = some r ∧ lastSaid? id (h.edits domains) = some (some r)
  removed : ∀ {id}, h.lastAction? id = some .delete →
    lastSaid? id (h.edits domains) = some none

namespace History

theorem faithful_start : start.Faithful domains where
  sound := Store.sound_empty
  untouched {id} _ := ⟨Store.get?_empty id, rfl⟩
  stored h := by cases h
  removed h := by cases h

/-- What the log says about an id once one more write has been published. -/
theorem lastSaid?_snoc {s : Store} (hcatalogs : domains.contains .catalogs = true)
    (ds : List (Call × Taken)) {c : Call} {t : Taken} (hleaves : Leaves s c.freshId c.write t)
    (s' : Store) (id : String) :
    lastSaid? id (History.edits domains ⟨s', ds ++ [(c, t)]⟩) =
      if c.target = id then some (match c.write.action with
        | .upsert => some t.record
        | .delete => none)
      else lastSaid? id (History.edits domains ⟨s, ds⟩) := by
  have hedits : History.edits domains ⟨s', ds ++ [(c, t)]⟩ =
      History.edits domains ⟨s, ds⟩ ++ (Replicator.edit? domains t.change).toList := by
    simp only [History.edits, List.filterMap_append]
    cases hedit : Replicator.edit? domains t.change <;> simp [hedit]
  have hid : t.record.id = c.target := hleaves.record_id
  rw [hedits, Cache.lastSaid?_append, hleaves.edit? hcatalogs]
  cases c.write.action with
  | upsert =>
    simp only [lastSaid?, Option.toList_some, List.filterMap_cons, Edit.says?, hid]
    by_cases htarget : c.target = id
    · simp [htarget]
    · simp [htarget]
  | delete =>
    have hkey : c.write.target c.freshId = c.target := rfl
    simp only [lastSaid?, Option.toList_some, List.filterMap_cons, Edit.says?, hkey]
    by_cases htarget : c.target = id
    · simp [htarget]
    · simp [htarget]

/-- One call keeps store and log in agreement, whether it succeeds or not. -/
theorem Faithful.call (hcatalogs : domains.contains .catalogs = true) {h : History}
    (hf : h.Faithful domains) {c : Call} (hfresh : c.freshId.isEmpty = false) :
    (h.call c).Faithful domains := by
  unfold History.call
  cases htake : take h.store c.freshId c.now c.write with
  | error f => exact hf
  | ok t =>
    have hleaves := take_eq_ok hf.sound hfresh htake
    have hget : ∀ id, t.store.get? id = if c.target = id then some t.record else h.store.get? id :=
      hleaves.get?
    have htold := lastSaid?_snoc hcatalogs h.taken hleaves t.store
    constructor
    case sound => exact hleaves.sound hf.sound
    case untouched =>
      intro id hlast
      rw [lastAction?_snoc h.store] at hlast
      by_cases htarget : c.target = id
      · simp [htarget] at hlast
      · rw [if_neg htarget] at hlast
        show t.store.get? id = none ∧ _
        rw [hget, htold, if_neg htarget, if_neg htarget]
        exact hf.untouched hlast
    case stored =>
      intro id hlast
      rw [lastAction?_snoc h.store] at hlast
      show ∃ r, t.store.get? id = some r ∧ _
      by_cases htarget : c.target = id
      · rw [if_pos htarget, Option.some.injEq] at hlast
        rw [hget, htold, if_pos htarget, if_pos htarget, hlast]
        exact ⟨t.record, rfl, rfl⟩
      · rw [if_neg htarget] at hlast
        rw [hget, htold, if_neg htarget, if_neg htarget]
        exact hf.stored hlast
    case removed =>
      intro id hlast
      rw [lastAction?_snoc h.store] at hlast
      by_cases htarget : c.target = id
      · rw [if_pos htarget, Option.some.injEq] at hlast
        rw [htold, if_pos htarget, hlast]
      · rw [if_neg htarget] at hlast
        rw [htold, if_neg htarget]
        exact hf.removed hlast

theorem Faithful.calls (hcatalogs : domains.contains .catalogs = true) {h : History}
    (hf : h.Faithful domains) {cs : List Call} (hfresh : ∀ c ∈ cs, c.freshId.isEmpty = false) :
    (h.calls cs).Faithful domains := by
  induction cs generalizing h with
  | nil => exact hf
  | cons c cs ih =>
    exact ih (hf.call hcatalogs (hfresh c List.mem_cons_self)) fun d hd =>
      hfresh d (List.mem_cons_of_mem c hd)

/-- An id that was written once stays one that was written. -/
theorem lastAction?_calls_ne_none {h : History} {id : String} (hlast : h.lastAction? id ≠ none)
    (cs : List Call) : (h.calls cs).lastAction? id ≠ none := by
  induction cs generalizing h with
  | nil => exact hlast
  | cons c cs ih =>
    refine ih ?_
    unfold call
    cases take h.store c.freshId c.now c.write with
    | error f => exact hlast
    | ok t =>
      show (History.mk t.store (h.taken ++ [(c, t)])).lastAction? id ≠ none
      rw [lastAction?_snoc h.store]
      split
      · exact Option.some_ne_none _
      · exact hlast

/-! ## The log on the wire -/

/-- What the log spells can be read, and every change comes back as it was. -/
theorem log_read {h : History} (hl : h.LeapsEndMinutes) :
    h.log.mapM (fun payload => Change.ofOctets (Octets.ofString payload)) =
      .ok (h.taken.map fun (c, t) => t.change.publishedAt c.publishedAt) := by
  obtain ⟨s, ds⟩ := h
  have htaken := hl.taken
  unfold log
  induction ds with
  | nil => rfl
  | cons d ds ih =>
    obtain ⟨c, t⟩ := d
    have hrest := ih ⟨hl.store, fun e he => htaken e (List.mem_cons_of_mem _ he)⟩
      fun e he => htaken e (List.mem_cons_of_mem _ he)
    have hchange : (t.change.publishedAt c.publishedAt).LeapsEndMinutes :=
      ⟨(htaken (c, t) List.mem_cons_self).record, c.publishedAt.regular⟩
    rw [List.map_cons, List.mapM_cons, Change.ofOctets_json, Change.settled_eq_iff.mpr hchange]
    simp only [bind, Except.bind, hrest]
    rfl

/-- When a change was published does not matter to what it does. -/
theorem edits_eq_of_read {h : History} {events : List (Event × Verdict)}
    (hevents : events.map (fun d => d.1.change) =
      h.taken.map fun (c, t) => t.change.publishedAt c.publishedAt) :
    (events.filterMap fun d => Replicator.edit? domains d.1.change) = h.edits domains := by
  have hread : (events.filterMap fun d => Replicator.edit? domains d.1.change) =
      (events.map fun d => d.1.change).filterMap (Replicator.edit? domains) := by
    rw [List.filterMap_map]
    rfl
  rw [hread, hevents, List.filterMap_map]
  rfl

end History
end Service

namespace Replicator

open Service (Call History)

/-- However the cache was filled, as long as everything in it had been written
before: once the whole log was applied, it serves the view that the writes give. -/
theorem replay_serves {r : Replicator} (hcache : r.cache.Consistent) {h : History}
    (hf : h.Faithful r.domains)
    (hknown : ∀ id x, r.cache.get? id = some x → h.lastAction? id ≠ none)
    {events : List (Event × Verdict)}
    (hevents : events.map (fun d => d.1.change) =
      h.taken.map fun (c, t) => t.change.publishedAt c.publishedAt) :
    (r.handleAll events).cache.Serves h.view := by
  have hend : (r.handleAll events).cache = r.cache.afterEdits (h.edits r.domains) := by
    rw [handleAll_cache, History.edits_eq_of_read hevents]
  have hconsistent : (r.handleAll events).cache.Consistent := by
    rw [hend]
    exact Cache.consistent_afterEdits hcache _
  have hview : (r.handleAll events).cache.get? = h.view := by
    funext id
    rw [hend, Cache.get?_afterEdits]
    unfold History.view
    cases hlast : h.lastAction? id with
    | none =>
      -- the log is silent about the id, and nothing was loaded under it
      rw [(hf.untouched hlast).2]
      cases hget : r.cache.get? id with
      | none => rfl
      | some x => exact absurd hlast (hknown id x hget)
    | some action =>
      cases action with
      | upsert =>
        -- the last word of the log is the store's record, whatever was loaded
        obtain ⟨x, hx, hsaid⟩ := hf.stored hlast
        rw [hsaid]
        exact hx.symm
      | delete =>
        rw [hf.removed hlast]
        rfl
  have hserves := Cache.serves_of_consistent hconsistent
  rwa [hview] at hserves

/-- Everything in a cache that was loaded from a store has been written. -/
theorem lastAction?_ne_none_of_begin {domains : List Domain}
    (hcatalogs : domains.contains .catalogs = true) {h : History} (hf : h.Faithful domains)
    {scan : Except Failure (List Record)}
    (hscan : ∀ found, scan = .ok found → ∀ x ∈ found, h.store.get? x.id = some x)
    {id : String} {x : Record} (hx : ((create domains).begin scan).2.cache.get? id = some x) :
    h.lastAction? id ≠ none := by
  have hcreate : (create domains).domains.contains .catalogs = true := hcatalogs
  have hnamed : ∀ found, scan = .ok found → ∀ y ∈ found, y.id.isEmpty = false :=
    fun found hfound y hy => hf.sound.named (hscan found hfound y hy)
  obtain ⟨-, found, hfound, hcache⟩ := begin_cache hcreate hnamed
  rw [hcache, Cache.get?_afterEdits] at hx
  cases hsaid : Cache.lastSaid? id (found.map .upsert) with
  | none =>
    rw [hsaid] at hx
    cases hx
  | some said =>
    rw [hsaid, Option.getD_some] at hx
    -- a record that is found was loaded, so the store had it under its id
    obtain ⟨hmem, hid⟩ := Cache.upsert_mem_of_lastSaid? (hx ▸ hsaid)
    obtain ⟨y, hy, hyx⟩ := List.mem_map.mp hmem
    cases hyx
    rcases hfound with rfl | hfound
    · cases hy
    · have hstore := hscan found hfound x hy
      rw [hid] at hstore
      intro hlast
      rw [(hf.untouched hlast).1] at hstore
      cases hstore

/-- Writes reach every cache that applies the log, whatever part of the store at
whatever moment was loaded into it before, and also if loading failed: each change
comes back from the wire as it was published, and in the end the cache holds, for
every id whose last call was one that creates or updates, the record that the store
has now, and nothing else. All its answers follow from that. -/
theorem writes_reach_cache {domains : List Domain} (hcatalogs : domains.contains .catalogs = true)
    {before after : List Call} (hfresh : ∀ c ∈ before ++ after, c.freshId.isEmpty = false)
    {scan : Except Failure (List Record)}
    (hscan : ∀ found, scan = .ok found →
      ∀ x ∈ found, (History.start.calls before).store.get? x.id = some x) :
    ∃ changes, (History.start.calls (before ++ after)).log.mapM
        (fun payload => Change.ofOctets (Octets.ofString payload)) = .ok changes ∧
      ∀ events : List (Event × Verdict), events.map (fun d => d.1.change) = changes →
        let h := History.start.calls (before ++ after)
        let c := (((create domains).begin scan).2.handleAll events).cache
        c.Serves h.view ∧
        (∀ id, h.lastAction? id = some .upsert →
          ∃ x, c.get? id = some x ∧ h.store.get? id = some x ∧ x.id = id) ∧
        (∀ id, h.lastAction? id ≠ some .upsert → c.get? id = none) := by
  have hall := History.faithful_start.calls hcatalogs hfresh
  have hbefore : (History.start.calls before).Faithful domains :=
    History.faithful_start.calls hcatalogs fun c hc => hfresh c (List.mem_append_left after hc)
  refine ⟨_, History.log_read (History.leapsEndMinutes_calls _), fun events hevents => ?_⟩
  have hcreate : (create domains).domains.contains .catalogs = true := hcatalogs
  have hnamed : ∀ found, scan = .ok found → ∀ x ∈ found, x.id.isEmpty = false :=
    fun found hfound x hx => hbefore.sound.named (hscan found hfound x hx)
  obtain ⟨hdomains, found, -, hcache⟩ := begin_cache hcreate hnamed
  have hconsistent : ((create domains).begin scan).2.cache.Consistent := by
    rw [hcache]
    exact Cache.consistent_afterEdits Cache.consistent_empty _
  -- what was loaded had been written before loading, and so it is in the whole log
  have hknown : ∀ id x, ((create domains).begin scan).2.cache.get? id = some x →
      (History.start.calls (before ++ after)).lastAction? id ≠ none := by
    intro id x hx
    rw [History.calls_append]
    exact History.lastAction?_calls_ne_none
      (lastAction?_ne_none_of_begin hcatalogs hbefore hscan hx) after
  have hserves := replay_serves hconsistent (hdomains.symm ▸ hall) hknown hevents
  refine ⟨hserves, fun id hlast => ?_, fun id hlast => ?_⟩
  · obtain ⟨x, hx, -⟩ := hall.stored hlast
    refine ⟨x, ?_, hx, hall.sound.own hx⟩
    rw [hserves.get?, History.view, hlast]
    exact hx
  · rw [hserves.get?, History.view]
    split
    · rename_i hupsert
      exact absurd hupsert hlast
    · rfl

/-! ## A node that joins in the middle -/

/-- A book in a category. -/
def dune (category : String) : Draft := ⟨category, "Dune", "", "9.99", true⟩

/-- Two copies are put on the shelf. -/
def shelved : List Call := [
  ⟨.create (dune "books"), "a", .epoch, .epoch⟩,
  ⟨.create (dune "books"), "b", .epoch, .epoch⟩]

/-- The first is moved, deleted and brought back in another category; the second is
deleted, and one without a category is refused. -/
def rearranged : List Call := [
  ⟨.update "a" (dune "novels"), "c", .epoch, .epoch⟩,
  ⟨.delete "a", "c", .epoch, .epoch⟩,
  ⟨.update "a" (dune "classics"), "c", .epoch, .epoch⟩,
  ⟨.delete "b", "c", .epoch, .epoch⟩,
  ⟨.create (dune " "), "c", .epoch, .epoch⟩]

/-- Loading found one of the two copies only, and both are as they should be in the
end. -/
theorem rearranged_reaches_cache :
    ∃ changes, (History.start.calls (shelved ++ rearranged)).log.mapM
        (fun payload => Change.ofOctets (Octets.ofString payload)) = .ok changes ∧
      ∀ events : List (Event × Verdict), events.map (fun d => d.1.change) = changes →
        let scan := .ok [(dune "books").record "b" .epoch]
        let c := (((create [.catalogs]).begin scan).2.handleAll events).cache
        c.get? "a" = some ((dune "classics").record "a" .epoch) ∧ c.get? "b" = none := by
  have hfresh : ∀ c ∈ shelved ++ rearranged, c.freshId.isEmpty = false := by
    decide
  have hscan : ∀ found, (.ok [(dune "books").record "b" .epoch] : Except Failure _) = .ok found →
      ∀ x ∈ found, (History.start.calls shelved).store.get? x.id = some x := by
    intro found hfound x hx
    cases hfound
    rw [List.mem_singleton] at hx
    subst hx
    rfl
  have hcatalogs : [Domain.catalogs].contains .catalogs = true := rfl
  obtain ⟨changes, hread, hcache⟩ := writes_reach_cache hcatalogs hfresh hscan
  refine ⟨changes, hread, fun events hevents => ?_⟩
  obtain ⟨-, hstored, hgone⟩ := hcache events hevents
  obtain ⟨x, hx, hstore, -⟩ := hstored "a" rfl
  have hlast : x = (dune "classics").record "a" .epoch := by
    cases hstore
    rfl
  exact ⟨hlast ▸ hx, hgone "b" (by decide +kernel)⟩

end Replicator
end CatalogReplica
