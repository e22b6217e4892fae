/-
# CatalogReplica.Proofs.Replication.Joining -- a node that joins and one that was there

A node gets its records in two ways: it loads the store, and it applies what was
published. The two agree about every id that was last created or updated. They differ
about an id that was last deleted: the store keeps the record and marks it, and loading
takes every record as it is, while the change that was published takes the id out of the
cache. So a node that has only loaded shows deleted records as inactive ones, which a
node that was there from the beginning does not show.
-/
import CatalogReplica.Proofs.Replication.WriteThrough

namespace CatalogReplica

namespace Service

/-- The record of a delete that was taken is no longer active. -/
theorem take_inactive {s : Store} {freshId : String} {now : Timestamp} {w : Write} {t : Taken}
    (h : take s freshId now w = .ok t) (hw : w.action = .delete) : t.record.active = false := by
  cases w with
  | create d => cases hw
  | update id d => cases hw
  | delete id =>
    unfold take Store.deactivate at h
    cases hfound : s.get? id with
    | none => simp [hfound] at h
    | some r =>
      simp only [hfound, Option.map_some, Except.ok.injEq] at h
      subst h
      rfl

namespace History

variable {domains : List Domain}

/-- Under an id that was last deleted the store has an inactive record. -/
theorem inactive_of_deleted (hcatalogs : domains.contains .catalogs = true) {cs : List Call}
    (hfresh : ∀ c ∈ cs, c.freshId.isEmpty = false) {id : String}
    (hlast : (start.calls cs).lastAction? id = some .delete) :
    ∃ x, (start.calls cs).store.get? id = some x ∧ x.active = false := by
  induction cs using List.reverseRecOn with
  | nil => cases hlast
  | append_singleton cs c ih =>
    have hbefore : ∀ d ∈ cs, d.freshId.isEmpty = false :=
      fun d hd => hfresh d (List.mem_append_left _ hd)
    have hc : c.freshId.isEmpty = false :=
      hfresh c (List.mem_append_right _ List.mem_cons_self)
    have hsound : (start.calls cs).store.Sound :=
      (faithful_start.calls hcatalogs hbefore).sound
    have hsnoc : start.calls (cs ++ [c]) = (start.calls cs).call c := calls_append _ _ _
    rw [hsnoc] at hlast ⊢
    unfold History.call at hlast ⊢
    cases htake : take (start.calls cs).store c.freshId c.now c.write with
    | error f =>
      rw [htake] at hlast
      exact ih hbefore hlast
    | ok t =>
      rw [htake] at hlast
      have hleaves := take_eq_ok hsound hc htake
      rw [lastAction?_snoc (start.calls cs).store] at hlast
      show ∃ x, t.store.get? id = some x ∧ _
      rw [hleaves.get?]
      by_cases htarget : c.target = id
      · rw [if_pos htarget] at hlast
        rw [if_pos (show c.write.target c.freshId = id from htarget)]
        exact ⟨_, rfl, take_inactive htake (Option.some.inj hlast)⟩
      · rw [if_neg htarget] at hlast
        rw [if_neg (show ¬ c.write.target c.freshId = id from htarget)]
        exact ih hbefore hlast

end History
end Service

namespace Replicator

open Service (Call History)
open Cache (lastSaid?)

variable {domains : List Domain}

/-- The cache of a node that has loaded a store, and applied no event. -/
def loadedCache (domains : List Domain) (s : Store) : Cache :=
  ((create domains).begin (.ok (s.scan none))).2.cache

/-- The cache of a node that found nothing to load, and applied these events. -/
def streamedCache (domains : List Domain) (events : List (Event × Verdict)) : Cache :=
  (((create domains).begin (.ok (Store.empty.scan none))).2.handleAll events).cache

/-! ## Loading a whole store -/

/-- What loading stores is what the scan found, if all of it has ids. -/
theorem begin_ok_cache {r : Replicator} (h : r.domains.contains .catalogs = true)
    {found : List Record} (hnamed : ∀ x ∈ found, x.id.isEmpty = false) :
    (r.begin (.ok found)).2.domains = r.domains ∧
      (r.begin (.ok found)).2.cache = r.cache.afterEdits (found.map .upsert) := by
  obtain ⟨hok, hdomains, hcache⟩ := load_eq_ok h hnamed
  unfold begin bootstrap
  rw [if_pos h]
  cases hload : r.load found with
  | mk verdict s =>
    rw [hload] at hok hdomains hcache
    cases hok
    simp only [hload]
    exact ⟨hdomains, hcache⟩

/-- A scan says of every id what the store has under it. -/
theorem lastSaid?_scan {s : Store} (hs : s.Sound) (id : String) :
    lastSaid? id ((s.scan none).map .upsert) = (s.get? id).map some := by
  cases hsaid : lastSaid? id ((s.scan none).map .upsert) with
  | some said =>
    obtain ⟨e, he, htold⟩ := List.mem_filterMap.mp (List.mem_of_getLast? hsaid)
    obtain ⟨x, hx, rfl⟩ := List.mem_map.mp he
    obtain ⟨k, hk⟩ := Store.mem_scan.mp hx
    rw [Cache.Edit.says?] at htold
    split at htold
    case isTrue hid =>
      cases htold
      have hkey : k = id := (hs.own hk).symm.trans hid
      rw [← hkey, hk]
      rfl
    case isFalse => cases htold
  | none =>
    cases hget : s.get? id with
    | none => rfl
    | some x =>
      -- the record was found, so something is said about its id
      have hx : Cache.Edit.upsert x ∈ (s.scan none).map Cache.Edit.upsert :=
        List.mem_map_of_mem (Store.mem_scan.mpr ⟨id, hget⟩)
      have hnothing := List.filterMap_eq_nil_iff.mp (List.getLast?_eq_none_iff.mp hsaid) _ hx
      simp [Cache.Edit.says?, hs.own hget] at hnothing

/-- A node that has loaded a store answers as the store would. -/
theorem loadedCache_get? (hcatalogs : domains.contains .catalogs = true) {s : Store}
    (hs : s.Sound) :
    (loadedCache domains s).Consistent ∧ (loadedCache domains s).get? = s.get? := by
  have hcreate : (create domains).domains.contains .catalogs = true := hcatalogs
  have hnamed : ∀ x ∈ s.scan none, x.id.isEmpty = false := by
    intro x hx
    obtain ⟨id, hid⟩ := Store.mem_scan.mp hx
    exact hs.own hid ▸ hs.named hid
  obtain ⟨-, hcache⟩ := begin_ok_cache hcreate hnamed
  constructor
  · rw [loadedCache, hcache]
    exact Cache.consistent_afterEdits Cache.consistent_empty _
  · funext id
    rw [loadedCache, hcache, Cache.get?_afterEdits, lastSaid?_scan hs]
    cases s.get? id <;> rfl

/-- A node that was there from the beginning answers as the writes say. -/
theorem streamedCache_get? (hcatalogs : domains.contains .catalogs = true) {cs : List Call}
    (hfresh : ∀ c ∈ cs, c.freshId.isEmpty = false) {events : List (Event × Verdict)}
    (hevents : events.map (fun d => d.1.change) =
      (History.start.calls cs).taken.map fun (c, t) => t.change.publishedAt c.publishedAt) :
    (streamedCache domains events).Consistent ∧
      (streamedCache domains events).get? = (History.start.calls cs).view := by
  have hcreate : (create domains).domains.contains .catalogs = true := hcatalogs
  have hnothing : ∀ x ∈ Store.empty.scan none, x.id.isEmpty = false := by
    intro x hx
    obtain ⟨id, hid⟩ := Store.mem_scan.mp hx
    exact Store.sound_empty.own hid ▸ Store.sound_empty.named hid
  obtain ⟨hdomains, -⟩ := begin_ok_cache hcreate hnothing
  obtain ⟨hconsistent, hempty⟩ := loadedCache_get? hcatalogs Store.sound_empty
  constructor
  · rw [streamedCache, handleAll_cache]
    exact Cache.consistent_afterEdits hconsistent _
  · have hfaithful := History.faithful_start.calls hcatalogs hfresh
    have hserves := replay_serves hconsistent (hdomains.symm ▸ hfaithful) (fun id x hx => ?_)
      hevents
    · exact funext hserves.get?
    · -- nothing is in the cache that has loaded nothing
      have hstore : Store.empty.get? id = some x := (congrFun hempty id).symm.trans hx
      nomatch (Store.get?_empty id).symm.trans hstore

/-! ## The two compared -/

/-- Removals say that their ids are gone, and nothing else. -/
theorem lastSaid?_removals (ids : List String) (id : String) :
    lastSaid? id (ids.map .remove) = if id ∈ ids then some none else none := by
  induction ids using List.reverseRecOn with
  | nil => rfl
  | append_singleton ids k ih =>
    rw [List.map_append, Cache.lastSaid?_append, ih]
    by_cases hk : k = id
    · simp [lastSaid?, Cache.Edit.says?, hk]
    · have hid : ¬ id = k := fun h => hk h.symm
      simp [lastSaid?, Cache.Edit.says?, hk, hid]

/-- Whatever was written: a node that has only loaded the store answers as the store does,
and gives the same record as a node that was there from the beginning under every id whose
last call was not a delete. Under any other id the latter has nothing, while the former
still has the record, which is inactive. So the two cannot be told apart exactly if the last
call on no id was a delete; and once these ids are taken out, they never can. -/
theorem loaded_alike_streamed_iff (hcatalogs : domains.contains .catalogs = true)
    {cs : List Call} (hfresh : ∀ c ∈ cs, c.freshId.isEmpty = false) :
    let h := History.start.calls cs
    ∃ changes, h.log.mapM (fun payload => Change.ofOctets (Octets.ofString payload)) =
        .ok changes ∧
      ∀ events : List (Event × Verdict), events.map (fun d => d.1.change) = changes →
        let loaded := loadedCache domains h.store
        let streamed := streamedCache domains events
        loaded.Serves h.store.get? ∧
        (∀ id, h.lastAction? id ≠ some .delete → loaded.get? id = streamed.get? id) ∧
        (∀ id, h.lastAction? id = some .delete → streamed.get? id = none ∧
          ∃ x, loaded.get? id = some x ∧ x.active = false) ∧
        (loaded.Alike streamed ↔ ∀ id, h.lastAction? id ≠ some .delete) ∧
        ∀ gone : List String, (∀ id, id ∈ gone ↔ h.lastAction? id = some .delete) →
          (loaded.afterEdits (gone.map .remove)).Alike streamed := by
  intro h
  have hfaithful : h.Faithful domains := History.faithful_start.calls hcatalogs hfresh
  refine ⟨_, History.log_read (History.leapsEndMinutes_calls cs), fun events hevents => ?_⟩
  obtain ⟨hloaded, hget⟩ := loadedCache_get? hcatalogs hfaithful.sound
  obtain ⟨hstreamed, hview⟩ := streamedCache_get? hcatalogs hfresh hevents
  have hkept (id : String) (hlast : h.lastAction? id ≠ some .delete) :
      h.store.get? id = h.view id := by
    unfold History.view
    cases haction : h.lastAction? id with
    | none => exact (hfaithful.untouched haction).1
    | some action =>
      cases action with
      | upsert => rfl
      | delete => exact absurd haction hlast
  have hgone (id : String) (hlast : h.lastAction? id = some .delete) : h.view id = none := by
    rw [History.view, hlast]
  refine ⟨?_, ?_, ?_, ⟨?_, ?_⟩, ?_⟩
  · have hserves := Cache.serves_of_consistent hloaded
    rwa [hget] at hserves
  · intro id hlast
    rw [hget, hview]
    exact hkept id hlast
  · intro id hlast
    rw [hget, hview]
    exact ⟨hgone id hlast, History.inactive_of_deleted hcatalogs hfresh hlast⟩
  · intro halike id hlast
    obtain ⟨x, hx, -⟩ := History.inactive_of_deleted hcatalogs hfresh hlast
    have hsame := halike.get? id
    rw [hget, hview, hgone id hlast, hx] at hsame
    cases hsame
  · intro hnone
    refine Cache.alike_of_get? hloaded hstreamed fun id => ?_
    rw [hget, hview]
    exact hkept id (hnone id)
  · intro gone hmem
    refine Cache.alike_of_get? (Cache.consistent_afterEdits hloaded _) hstreamed fun id => ?_
    rw [Cache.get?_afterEdits, hget, hview, lastSaid?_removals]
    by_cases hid : id ∈ gone
    · rw [if_pos hid, hgone id ((hmem id).mp hid)]
      rfl
    · rw [if_neg hid, hkept id fun hlast => hid ((hmem id).mpr hlast)]
      rfl

/-! ## A record that was deleted -/

/-- Of two books one is deleted for good, the other is deleted and brought back. -/
def weeded : List Call := [
  ⟨.create (dune "books"), "a", .epoch, .epoch⟩,
  ⟨.create (dune "books"), "b", .epoch, .epoch⟩,
  ⟨.delete "a", "c", .epoch, .epoch⟩,
  ⟨.delete "b", "c", .epoch, .epoch⟩,
  ⟨.update "b" (dune "novels"), "c", .epoch, .epoch⟩]

/-- The first book is found only where the store was loaded, and is inactive there; the
second is the same everywhere. -/
theorem weeded_loaded_and_streamed :
    ∃ changes, (History.start.calls weeded).log.mapM
        (fun payload => Change.ofOctets (Octets.ofString payload)) = .ok changes ∧
      ∀ events : List (Event × Verdict), events.map (fun d => d.1.change) = changes →
        let loaded := loadedCache [.catalogs] (History.start.calls weeded).store
        let streamed := streamedCache [.catalogs] events
        streamed.get? "a" = none ∧ (∃ x, loaded.get? "a" = some x ∧ x.active = false) ∧
          loaded.get? "b" = streamed.get? "b" ∧ ¬ loaded.Alike streamed := by
  have hfresh : ∀ c ∈ weeded, c.freshId.isEmpty = false := by decide
  have hcatalogs : [Domain.catalogs].contains .catalogs = true := rfl
  obtain ⟨changes, hread, hcompare⟩ := loaded_alike_streamed_iff hcatalogs hfresh
  have hdeleted : (History.start.calls weeded).lastAction? "a" = some .delete := by
    decide +kernel
  have hback : (History.start.calls weeded).lastAction? "b" = some .upsert := by
    decide +kernel
  refine ⟨changes, hread, fun events hevents => ?_⟩
  obtain ⟨-, hsame, hdiffer, halike, -⟩ := hcompare events hevents
  obtain ⟨hnone, hinactive⟩ := hdiffer "a" hdeleted
  refine ⟨hnone, hinactive, hsame "b" ?_, ?_⟩
  · rw [hback]
    decide
  · intro h
    exact halike.mp h "a" hdeleted

/-- It is not so that a node that has loaded the store cannot be told apart from one that
was there from the beginning, even if all calls succeed. -/
theorem loaded_shows_deleted :
    ¬ ∀ (cs : List Call) (events : List (Event × Verdict)),
      (∀ c ∈ cs, c.freshId.isEmpty = false) →
      (History.start.calls cs).taken.length = cs.length →
      events.map (fun d => d.1.change) =
        ((History.start.calls cs).taken.map fun (c, t) => t.change.publishedAt c.publishedAt) →
      (loadedCache [.catalogs] (History.start.calls cs).store).Alike
        (streamedCache [.catalogs] events) := by
  intro h
  let events : List (Event × Verdict) := (History.start.calls weeded).taken.map fun (c, t) =>
    (⟨.zero, t.change.publishedAt c.publishedAt⟩, .ok ())
  have halike := h weeded events (by decide) (by decide +kernel) (by simp [events])
  have hfound : ((loadedCache [.catalogs] (History.start.calls weeded).store).get? "a").isSome
      = true := by
    decide +kernel
  have hnone : ((streamedCache [.catalogs] events).get? "a").isSome = false := by
    decide +kernel
  rw [halike.get?, hnone] at hfound
  cases hfound

end Replicator
end CatalogReplica
