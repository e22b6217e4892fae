/-
# CatalogReplica.Proofs.Replication.Retrying -- calls that are repeated until they publish

A call whose change could not be published has written all the same, so the next try
works on a store that has the write already. For an update or a delete that makes no
difference: the try that is published leaves the store, and the caches that follow, as
if it had been the only one. A create makes another record with every try. Only the
last of them is published, and the others stay in the store, where no cache hears of
them.
-/
import CatalogReplica.Proofs.Replication.WriteThrough
import CatalogReplica.Proofs.Service.Publishing

namespace CatalogReplica

namespace Store

/-- A store that has what another has, and these records besides. -/
structure Adds (s t : Store) (xs : List Record) : Prop where
  added : ∀ x ∈ xs, t.get? x.id = some x ∧ s.get? x.id = none
  others : ∀ id, id ∉ xs.map (·.id) → t.get? id = s.get? id
  size : t.size = s.size + xs.length

theorem Adds.scan_eq {s t : Store} (h : s.Adds t []) (category : Option String) :
    t.scan category = s.scan category :=
  scan_eq_of_get?_eq (fun id => h.others id List.not_mem_nil) category

end Store

namespace Service

/-! ## A write that was taken once -/

/-- A write that was taken is not refused the next time. -/
theorem refusal?_again {s : Store} {w : Write} (h : w.refusal? s = none) (freshId : String)
    (r : Record) : w.refusal? ⟨s.records.insert (w.target freshId) r⟩ = none := by
  have hthere : ∀ id, (Store.mk (s.records.insert id r)).missing? id = none := by
    intro id
    unfold Store.missing?
    rw [Store.get?_insert, if_pos rfl]
    rfl
  cases w with
  | create d => exact h
  | update id d =>
    obtain ⟨hdraft, -⟩ := Option.or_eq_none_iff.mp h
    exact Option.or_eq_none_iff.mpr ⟨hdraft, hthere id⟩
  | delete id => exact hthere id

/-- The record that a write leaves does not depend on whether the same write was taken
before. -/
theorem record_again {s : Store} {w : Write} (before freshId : String) (earlier now : Timestamp) :
    w.record ⟨s.records.insert (w.target before) (w.record s before earlier)⟩ freshId now =
      w.record s freshId now := by
  cases w with
  | create d => rfl
  | update id d =>
    simp only [Write.record, Write.target, Store.get?_insert, if_pos, Option.getD_some]
    rfl
  | delete id =>
    simp only [Write.record, Write.target, Store.get?_insert, if_pos, Option.getD_some]

/-- The record that an update or a delete is about is there. -/
theorem isSome_target {s : Store} {w : Write} (h : w.refusal? s = none)
    (hw : ∀ d, w ≠ .create d) (freshId : String) : (s.get? (w.target freshId)).isSome := by
  have hfound : ∀ {id}, s.missing? id = none → (s.get? id).isSome := by
    intro id hid
    unfold Store.missing? at hid
    cases hget : s.get? id with
    | none => simp [hget] at hid
    | some r => rfl
  cases w with
  | create d => exact absurd rfl (hw d)
  | update id d => exact hfound (Option.or_eq_none_iff.mp h).2
  | delete id => exact hfound h

/-- The record that a write leaves has the id that the write is about. -/
theorem record_id {s : Store} (hown : ∀ {id r}, s.get? id = some r → r.id = id) {w : Write}
    (h : w.refusal? s = none) (freshId : String) (now : Timestamp) :
    (w.record s freshId now).id = w.target freshId := by
  cases w with
  | create d => rfl
  | update id d =>
    obtain ⟨r, hr⟩ := Option.isSome_iff_exists.mp
      (isSome_target h (fun _ hcreate => by cases hcreate) freshId)
    have hid : r.id = id := hown hr
    simp only [Write.record, show s.get? id = some r from hr]
    exact hid
  | delete id =>
    obtain ⟨r, hr⟩ := Option.isSome_iff_exists.mp
      (isSome_target h (fun _ hcreate => by cases hcreate) freshId)
    have hid : r.id = id := hown hr
    simp only [Write.record, show s.get? id = some r from hr]
    exact hid

/-- A write makes a new record, or it is about one that is there. -/
theorem create_or (w : Write) : (∃ draft, w = .create draft) ∨ ∀ draft, w ≠ .create draft := by
  cases w with
  | create draft => exact .inl ⟨draft, rfl⟩
  | update id draft => exact .inr nofun
  | delete id => exact .inr nofun

namespace Desk

/-- A service is set up with these records in its store. -/
def opened (records : List Record) (cache : Cache) : Desk := ⟨.ofList records, cache, []⟩

/-- What has been published. -/
def published (d : Desk) : List Change :=
  d.handed.filterMap fun (change, outcome) => if outcome.isOk then some change else none

/-- Every record that a service writes is kept under its own id. -/
theorem own_after {d : Desk} (hown : ∀ {id r}, d.store.get? id = some r → r.id = id)
    (calls : List (Call × Except Failure EntryId)) {id : String} {r : Record}
    (h : (d.after calls).store.get? id = some r) : r.id = id := by
  induction calls generalizing d with
  | nil => exact hown h
  | cons c calls ih =>
    refine ih (d := (d.call c.1 c.2).2) (fun {key x} hx => ?_) h
    cases hrefused : c.1.write.refusal? d.store with
    | some f =>
      rw [call_refused hrefused] at hx
      exact hown hx
    | none =>
      rw [call_taken hrefused] at hx
      have hread := (Store.get?_insert d.store c.1.target _ key).symm.trans hx
      split at hread
      · rename_i hkey
        cases hread
        exact (record_id hown hrefused _ _).trans hkey
      · exact hown hread

/-! ## Tries -/

/-- A call is made once with each outcome that publishing failed with, and then once
more, and its change is published. -/
def retry (d : Desk) (failed : List (Call × Failure)) (c : Call) (entry : EntryId) : Desk :=
  ((d.after (failed.map fun t => (t.1, .error t.2))).call c (.ok entry)).2

/-- The record that a try leaves which is not published and not repeated either, since
the next one makes another. -/
def leftover? (c : Call) : Option Record :=
  match c.write with
  | .create d => some (d.record c.freshId c.now)
  | _ => none

/-- The records of the tries that were not published, and that no later one wrote
over. -/
def leftovers (failed : List (Call × Failure)) : List Record :=
  failed.filterMap fun t => leftover? t.1

/-- A call is repeated as it is, with arguments that the store accepts and an id that is
not empty; ids for new records are new. -/
structure Repeats (s : Store) (failed : List (Call × Failure)) (c : Call) : Prop where
  same : ∀ t ∈ failed, t.1.write = c.write
  accepted : c.write.refusal? s = none
  named : c.target.isEmpty = false
  fresh : ∀ d, c.write = .create d → (failed.map (·.1.freshId) ++ [c.freshId]).Nodup ∧
    ∀ id ∈ failed.map (·.1.freshId) ++ [c.freshId], s.get? id = none

/-- Each try of a create leaves a record. -/
theorem leftovers_create {failed : List (Call × Failure)} {draft : Draft}
    (h : ∀ t ∈ failed, t.1.write = .create draft) :
    leftovers failed = failed.map fun t => draft.record t.1.freshId t.1.now := by
  refine List.filterMap_eq_map_iff_forall_eq_some.mpr fun t ht => ?_
  unfold leftover?
  rw [h t ht]

/-- The tries of an update or a delete write over one another. -/
theorem leftovers_eq_nil {failed : List (Call × Failure)} {w : Write}
    (h : ∀ t ∈ failed, t.1.write = w) (hw : ∀ draft, w ≠ .create draft) :
    leftovers failed = [] := by
  refine List.filterMap_eq_nil_iff.mpr fun t ht => ?_
  unfold leftover?
  split
  · rename_i draft hcreate
    exact absurd ((h t ht).symm.trans hcreate) (hw draft)
  · rfl

theorem target_create {c : Call} {draft : Draft} (h : c.write = .create draft) :
    c.target = c.freshId := by
  unfold Call.target
  rw [h]
  rfl

theorem Repeats.tail {d : Desk} {t : Call × Failure} {failed : List (Call × Failure)} {c : Call}
    (h : Repeats d.store (t :: failed) c) :
    Repeats (d.call t.1 (.error t.2)).2.store failed c := by
  have ht : t.1.write = c.write := h.same t List.mem_cons_self
  have haccepted : t.1.write.refusal? d.store = none := ht ▸ h.accepted
  rw [call_taken haccepted]
  constructor
  case same => exact fun u hu => h.same u (List.mem_cons_of_mem t hu)
  case accepted => exact ht ▸ refusal?_again haccepted _ _
  case named => exact h.named
  case fresh =>
    intro draft hcreate
    obtain ⟨hnodup, habsent⟩ := h.fresh draft hcreate
    rw [List.map_cons, List.cons_append] at hnodup habsent
    obtain ⟨hnew, hnodup⟩ := List.nodup_cons.mp hnodup
    refine ⟨hnodup, fun id hid => ?_⟩
    -- the record of this try is under an id that no later one uses
    have htarget : t.1.target = t.1.freshId := target_create (ht.trans hcreate)
    have hne : t.1.freshId ≠ id := fun heq => hnew (heq ▸ hid)
    refine (Store.get?_insert d.store t.1.target _ id).trans ?_
    rw [htarget, if_neg hne]
    exact habsent id (List.mem_cons_of_mem _ hid)

/-- What tries that were not published have done, when the same call is made again. -/
structure Tried (d d' : Desk) (failed : List (Call × Failure)) (c : Call) : Prop where
  accepted : c.write.refusal? d'.store = none
  record : c.write.record d'.store c.freshId c.now = c.write.record d.store c.freshId c.now
  outcomes : d'.handed.map (·.2) = d.handed.map (·.2) ++ failed.map fun t => .error t.2
  published : d'.published = d.published
  left : ∀ x ∈ leftovers failed, d'.store.get? x.id = some x
  others : ∀ id, id ∉ failed.map (·.1.target) → d'.store.get? id = d.store.get? id
  size : d'.store.size = d.store.size + (leftovers failed).length

/-- One try that is not published. -/
theorem tried_once {d : Desk} {t : Call × Failure} {failed : List (Call × Failure)} {c : Call}
    (h : Repeats d.store (t :: failed) c) : Tried d (d.call t.1 (.error t.2)).2 [t] c := by
  have ht : t.1.write = c.write := h.same t List.mem_cons_self
  have haccepted : t.1.write.refusal? d.store = none := ht ▸ h.accepted
  have hagain := h.tail.accepted
  rw [call_taken haccepted] at hagain ⊢
  have hread := Store.get?_insert d.store t.1.target
    (t.1.write.record d.store t.1.freshId t.1.now)
  constructor
  case accepted => exact hagain
  case record => exact ht ▸ record_again _ _ _ _
  case outcomes => exact List.map_append
  case published =>
    unfold published
    rw [List.filterMap_append]
    exact List.append_nil _
  case left =>
    intro x hx
    rcases create_or t.1.write with ⟨draft, hcreate⟩ | hwrite
    · rw [leftovers_create (by simpa using hcreate)] at hx
      cases List.mem_singleton.mp hx
      refine (hread t.1.freshId).trans ?_
      rw [if_pos (target_create hcreate), hcreate]
      rfl
    · rw [leftovers_eq_nil (w := t.1.write) (by simp) hwrite] at hx
      cases hx
  case others =>
    intro id hid
    have hne : t.1.target ≠ id := fun heq => hid (heq ▸ List.mem_singleton_self _)
    exact (hread id).trans (if_neg hne)
  case size =>
    refine (Store.size_insert d.store _ _).trans ?_
    rcases create_or t.1.write with ⟨draft, hcreate⟩ | hwrite
    · -- the record is new
      have hnew := (h.fresh draft (ht ▸ hcreate)).2 t.1.freshId List.mem_cons_self
      rw [leftovers_create (by simpa using hcreate), target_create hcreate, hnew]
      rfl
    · -- there was one under the id before
      have hthere : (d.store.get? t.1.target).isSome := isSome_target haccepted hwrite t.1.freshId
      rw [leftovers_eq_nil (w := t.1.write) (by simp) hwrite, if_pos hthere]
      rfl

theorem Tried.trans {d d' d'' : Desk} {failed more : List (Call × Failure)} {c : Call}
    (h : Tried d d' failed c) (h' : Tried d' d'' more c)
    (hapart : ∀ x ∈ leftovers failed, x.id ∉ more.map (·.1.target)) :
    Tried d d'' (failed ++ more) c := by
  have hleftovers : leftovers (failed ++ more) = leftovers failed ++ leftovers more :=
    List.filterMap_append
  constructor
  case accepted => exact h'.accepted
  case record => exact h'.record.trans h.record
  case outcomes => rw [h'.outcomes, h.outcomes, List.map_append, List.append_assoc]
  case published => exact h'.published.trans h.published
  case left =>
    intro x hx
    rw [hleftovers] at hx
    rcases List.mem_append.mp hx with hx | hx
    · exact (h'.others x.id (hapart x hx)).trans (h.left x hx)
    · exact h'.left x hx
  case others =>
    intro id hid
    rw [List.map_append, List.mem_append, not_or] at hid
    exact (h'.others id hid.2).trans (h.others id hid.1)
  case size =>
    rw [h'.size, h.size, hleftovers, List.length_append, Nat.add_assoc]

theorem tried_retry {d : Desk} {failed : List (Call × Failure)} {c : Call}
    (h : Repeats d.store failed c) :
    Tried d (d.after (failed.map fun t => (t.1, .error t.2))) failed c := by
  induction failed generalizing d with
  | nil =>
    rw [List.map_nil, after_nil]
    constructor
    case accepted => exact h.accepted
    case record => rfl
    case outcomes => exact (List.append_nil _).symm
    case published => rfl
    case left => exact fun x hx => (List.not_mem_nil hx).elim
    case others => exact fun id _ => rfl
    case size => rfl
  | cons t failed ih =>
    have hrest := ih h.tail
    refine (tried_once h).trans hrest fun x hx => ?_
    -- no later try is about the record that this one leaves
    rcases create_or c.write with ⟨draft, hcreate⟩ | hwrite
    · have hall : ∀ u ∈ t :: failed, u.1.write = .create draft :=
        fun u hu => (h.same u hu).trans hcreate
      have htargets : failed.map (·.1.target) = failed.map (·.1.freshId) :=
        List.map_congr_left fun u hu => target_create (hall u (List.mem_cons_of_mem t hu))
      have hnodup := (h.fresh draft hcreate).1
      rw [List.map_cons, List.cons_append] at hnodup
      rw [leftovers_create (by simpa using hall t List.mem_cons_self)] at hx
      cases List.mem_singleton.mp hx
      rw [htargets]
      exact fun hmem => (List.nodup_cons.mp hnodup).1 (List.mem_append_left _ hmem)
    · rw [leftovers_eq_nil (w := c.write) (by simpa using h.same t List.mem_cons_self) hwrite] at hx
      cases hx

/-- The try that is published finds an id there exactly if the first one did. -/
theorem isSome_target_tried {d d' : Desk} {failed : List (Call × Failure)} {c : Call}
    (h : Repeats d.store failed c) (h' : Tried d d' failed c) :
    (d'.store.get? c.target).isSome = (d.store.get? c.target).isSome := by
  rcases create_or c.write with ⟨draft, hcreate⟩ | hwrite
  · have htargets : failed.map (·.1.target) = failed.map (·.1.freshId) :=
      List.map_congr_left fun u hu => target_create ((h.same u hu).trans hcreate)
    have hapart : c.target ∉ failed.map (·.1.target) := by
      rw [target_create hcreate, htargets]
      have hnodup := List.nodup_append.mp (h.fresh draft hcreate).1
      exact fun hmem => hnodup.2.2 _ hmem _ (List.mem_singleton_self _) rfl
    rw [h'.others c.target hapart]
  · have hbefore : (d.store.get? c.target).isSome := isSome_target h.accepted hwrite c.freshId
    have hafter : (d'.store.get? c.target).isSome := isSome_target h'.accepted hwrite c.freshId
    rw [hbefore, hafter]

/-- A record that is left over is not the one that was published, and was not there
before. -/
theorem left_apart {s : Store} {failed : List (Call × Failure)} {c : Call}
    (h : Repeats s failed c) {x : Record} (hx : x ∈ leftovers failed) :
    c.target ≠ x.id ∧ s.get? x.id = none := by
  rcases create_or c.write with ⟨draft, hcreate⟩ | hwrite
  · rw [leftovers_create fun t ht => (h.same t ht).trans hcreate] at hx
    obtain ⟨t, ht, rfl⟩ := List.mem_map.mp hx
    have hid : t.1.freshId ∈ failed.map (·.1.freshId) := List.mem_map_of_mem ht
    obtain ⟨hnodup, habsent⟩ := h.fresh draft hcreate
    refine ⟨fun heq => ?_, habsent _ (List.mem_append_left _ hid)⟩
    rw [target_create hcreate] at heq
    exact (List.nodup_append.mp hnodup).2.2 _ hid _ (List.mem_singleton_self _) heq.symm
  · rw [leftovers_eq_nil h.same hwrite] at hx
    cases hx

/-- Tries that leave nothing over have touched the record of the call alone. -/
theorem untouched_of_not_left {s : Store} {failed : List (Call × Failure)} {c : Call}
    (h : Repeats s failed c) {id : String} (hid : id ∉ (leftovers failed).map (·.id))
    (htarget : c.target ≠ id) : id ∉ failed.map (·.1.target) := by
  intro hmem
  obtain ⟨t, ht, rfl⟩ := List.mem_map.mp hmem
  rcases create_or c.write with ⟨draft, hcreate⟩ | hwrite
  · have hall : ∀ t ∈ failed, t.1.write = .create draft := fun t ht =>
      (h.same t ht).trans hcreate
    rw [leftovers_create hall, List.map_map] at hid
    exact hid (List.mem_map.mpr ⟨t, ht, (target_create (hall t ht)).symm⟩)
  · -- the target of an update or a delete is in its arguments
    refine htarget ?_
    unfold Call.target
    rw [h.same t ht]
    cases hw : c.write with
    | create draft => exact absurd hw (hwrite draft)
    | update id draft => rfl
    | delete id => rfl

/-- The last try writes and publishes the record that it would as the only one. -/
theorem retry_eq {d : Desk} {failed : List (Call × Failure)} {c : Call}
    (h : Repeats d.store failed c) (entry : EntryId) :
    d.retry failed c entry =
      let d' := d.after (failed.map fun t => (t.1, .error t.2))
      let r := c.write.record d.store c.freshId c.now
      { d' with
        store := ⟨d'.store.records.insert c.target r⟩
        handed := d'.handed ++ [(c.write.change c.freshId r, .ok entry)] } := by
  have htried := tried_retry h
  unfold retry
  rw [call_taken htried.accepted, htried.record]

/-- Besides what the last try alone would have left, the store has what is left over. -/
theorem retry_adds {d : Desk} {failed : List (Call × Failure)} {c : Call}
    (h : Repeats d.store failed c) (entry : EntryId) :
    (d.call c (.ok entry)).2.store.Adds (d.retry failed c entry).store (leftovers failed) := by
  have htried := tried_retry h
  rw [call_taken h.accepted, retry_eq h]
  have hread := Store.get?_insert d.store c.target
    (c.write.record d.store c.freshId c.now)
  have hread' := Store.get?_insert (d.after (failed.map fun t => (t.1, .error t.2))).store c.target
    (c.write.record d.store c.freshId c.now)
  constructor
  case added =>
    intro x hx
    obtain ⟨hapart, habsent⟩ := left_apart h hx
    exact ⟨(hread' x.id).trans ((if_neg hapart).trans (htried.left x hx)),
      (hread x.id).trans ((if_neg hapart).trans habsent)⟩
  case others =>
    intro id hid
    refine (hread' id).trans (Eq.trans ?_ (hread id).symm)
    by_cases htarget : c.target = id
    · rw [if_pos htarget, if_pos htarget]
    · rw [if_neg htarget, if_neg htarget]
      exact htried.others id (untouched_of_not_left h hid htarget)
  case size =>
    refine (Store.size_insert _ c.target _).trans ?_
    refine Eq.trans ?_ (congrArg (· + _) (Store.size_insert d.store c.target _).symm)
    rw [isSome_target_tried h htried, htried.size]
    split
    · rfl
    · exact Nat.add_right_comm _ _ 1

end Desk

/-! ## Caches that follow -/

/-- A store and a cache say the same about every id, but for those whose record is no
longer active. -/
def Agree (s : Store) (c : Cache) : Prop :=
  ∀ id, (∀ x, s.get? id = some x → x.active = true) → c.get? id = s.get? id

/-- A cache that agrees with a store agrees with one that has more exactly if nothing of
that is active, since it cannot have heard of it. -/
theorem agree_iff_of_adds {s t : Store} {xs : List Record} (h : s.Adds t xs) {c : Cache}
    (hagree : Agree s c) : Agree t c ↔ ∀ x ∈ xs, x.active = false := by
  constructor
  · intro hafter x hx
    by_contra hactive
    obtain ⟨hstored, habsent⟩ := h.added x hx
    have hheard := hafter x.id fun y hy => by
      cases hstored.symm.trans hy
      simpa using hactive
    have hunheard := hagree x.id fun y hy => by
      rw [habsent] at hy
      cases hy
    rw [hheard, hstored, habsent] at hunheard
    cases hunheard
  · intro hinactive id hactive
    by_cases hid : id ∈ xs.map (·.id)
    · obtain ⟨x, hx, rfl⟩ := List.mem_map.mp hid
      have hshown := hactive x (h.added x hx).1
      rw [hinactive x hx] at hshown
      cases hshown
    · rw [h.others id hid]
      refine hagree id fun x hx => hactive x ?_
      rw [h.others id hid]
      exact hx

/-- What a call leaves behind that is not refused. -/
theorem leaves_of_accepted {s : Store} (hown : ∀ {id r}, s.get? id = some r → r.id = id)
    {w : Write} (h : w.refusal? s = none) {freshId : String} (now : Timestamp)
    (hnamed : (w.target freshId).isEmpty = false) :
    Leaves s freshId w {
      record := w.record s freshId now
      store := ⟨s.records.insert (w.target freshId) (w.record s freshId now)⟩
      change := w.change freshId (w.record s freshId now) } where
  record_id := record_id hown h freshId now
  named := hnamed
  get? := Store.get?_insert s _ _
  change := rfl

/-- A replicator that handles the change of a write has the record as it was written,
or has it no longer. -/
theorem Leaves.get?_handle {r : Replicator} (hcatalogs : r.domains.contains .catalogs = true)
    {s : Store} {freshId : String} {w : Write} {t : Taken} (h : Leaves s freshId w t)
    {e : Event} {time : Timestamp} (he : e.change = t.change.publishedAt time)
    (ack : Except Failure Unit) (id : String) : (r.handle e ack).2.cache.get? id =
      if w.target freshId = id then
        match w.action with
        | .upsert => some t.record
        | .delete => none
      else r.cache.get? id := by
  have hedit : Replicator.edit? r.domains e.change = Replicator.edit? r.domains t.change :=
    he ▸ rfl
  rw [Replicator.handle_cache, hedit, h.edit? hcatalogs, Option.toList_some,
    Cache.afterEdits_cons, Cache.afterEdits_nil, Cache.get?_edited]
  have hid : t.record.id = w.target freshId := h.record_id
  cases w.action with
  | upsert =>
    simp only [Cache.Edit.says?, hid]
    split
    · rfl
    · rfl
  | delete =>
    simp only [Cache.Edit.says?]
    split
    · rfl
    · rfl

/-- A delete leaves a record that is no longer active. -/
theorem record_inactive {s : Store} {w : Write} (h : w.action = .delete) (freshId : String)
    (now : Timestamp) : (w.record s freshId now).active = false := by
  cases w with
  | create d => cases h
  | update id d => cases h
  | delete id => rfl

/-- A cache that agreed with the store agrees with it again once the change of a write
was handled. -/
theorem agree_handle {r : Replicator} (hcatalogs : r.domains.contains .catalogs = true)
    {s : Store} (hown : ∀ {id x}, s.get? id = some x → x.id = id) {w : Write}
    (haccepted : w.refusal? s = none) {freshId : String} {now time : Timestamp}
    (hnamed : (w.target freshId).isEmpty = false) (hagree : Agree s r.cache) {e : Event}
    (he : e.change = (w.change freshId (w.record s freshId now)).publishedAt time)
    (ack : Except Failure Unit) :
    Agree ⟨s.records.insert (w.target freshId) (w.record s freshId now)⟩
      (r.handle e ack).2.cache := by
  have hleaves := leaves_of_accepted hown haccepted now hnamed
  intro id hactive
  rw [hleaves.get?_handle hcatalogs he ack, Store.get?_insert]
  by_cases hid : w.target freshId = id
  · rw [if_pos hid, if_pos hid]
    cases haction : w.action with
    | upsert => rfl
    | delete =>
      have hinactive := record_inactive (s := s) haction freshId now
      have hstored := hactive _ ((Store.get?_insert s _ _ id).trans (if_pos hid))
      rw [hinactive] at hstored
      cases hstored
  · rw [if_neg hid, if_neg hid]
    refine hagree id fun x hx => hactive x ?_
    exact (Store.get?_insert s _ _ id).trans ((if_neg hid).trans hx)

namespace Desk

/-- What repeating a call until its change is published comes to, on every store that a
service can have written. Every try hands over one change, and that of the last is the
only one that is published. If the call updates or deletes, the store has the very records
that the last try alone would have left. If it creates, it has besides these one record
for each try that failed, under an id that no change tells of. So a cache that agreed with
the store before, about all but deleted records, agrees with it again exactly if no active
record is left over. -/
theorem retried_until_published (records : List Record) (cache : Cache)
    (before : List (Call × Except Failure EntryId)) {failed : List (Call × Failure)} {c : Call}
    (entry : EntryId)
    (h : Repeats ((opened records cache).after before).store failed c) :
    let d := (opened records cache).after before
    let once := (d.call c (.ok entry)).2
    let retried := d.retry failed c entry
    let record := c.write.record d.store c.freshId c.now
    retried.handed.map (·.2) =
      d.handed.map (·.2) ++ (failed.map fun t => .error t.2) ++ [.ok entry] ∧
    retried.published = d.published ++ [c.write.change c.freshId record] ∧
    once.store.Adds retried.store (leftovers failed) ∧
    ((∀ draft, c.write ≠ .create draft) → leftovers failed = [] ∧
      ∀ category, retried.store.scan category = once.store.scan category) ∧
    (∀ draft, c.write = .create draft →
      leftovers failed = failed.map fun t => draft.record t.1.freshId t.1.now) ∧
    ∀ (r : Replicator) (e : Event) (ack : Verdict) (time : Timestamp),
      r.domains.contains .catalogs = true →
      e.change = (c.write.change c.freshId record).publishedAt time →
      Agree d.store r.cache →
        (Agree retried.store (r.handle e ack).2.cache ↔
          ∀ x ∈ leftovers failed, x.active = false) := by
  intro d once retried record
  have hown : ∀ {id x}, d.store.get? id = some x → x.id = id :=
    own_after (Store.own_ofList records) before
  have htried := tried_retry h
  have hadds : once.store.Adds retried.store (leftovers failed) := retry_adds h entry
  refine ⟨?_, ?_, hadds, fun hwrite => ?_, fun draft hcreate => ?_, ?_⟩
  · show (d.retry failed c entry).handed.map (·.2) = _
    rw [retry_eq h, List.map_append, htried.outcomes]
    rfl
  · show (d.retry failed c entry).published = _
    rw [retry_eq h]
    unfold published
    rw [List.filterMap_append]
    exact congrArg (· ++ _) htried.published
  · have hnone : leftovers failed = [] := leftovers_eq_nil h.same hwrite
    rw [hnone] at hadds
    exact ⟨hnone, hadds.scan_eq⟩
  · exact leftovers_create fun t ht => (h.same t ht).trans hcreate
  · intro r e ack time hcatalogs he hagree
    have hagain : Agree once.store (r.handle e ack).2.cache := by
      show Agree (d.call c (.ok entry)).2.store _
      rw [call_taken h.accepted]
      exact agree_handle hcatalogs hown h.accepted h.named hagree he ack
    exact agree_iff_of_adds hadds hagain

/-! ## A book that is put back, and one that is new -/

open Replicator (dune)

/-- A book is brought back, in another category. -/
def putBack : Call := ⟨.update "a" (dune "novels"), "", .epoch, .epoch⟩

/-- A book that had been deleted is brought back with the third try, and the cache of a
node that had nothing has it then. -/
theorem putBack_republished :
    let d := (opened [{ (dune "books").record "a" .epoch with active := false }] .empty).after []
    let retried := d.retry [(putBack, .noConnection), (putBack, .queueClosed)] putBack .zero
    let back := (dune "novels").record "a" .epoch
    retried.published = [.upsert back] ∧ retried.store.size = 1 ∧
    ∀ (e : Event) (ack : Verdict), e.change = .upsert back →
      Agree retried.store ((Replicator.create [.catalogs]).handle e ack).2.cache := by
  intro d retried back
  have hrepeats : Repeats d.store [(putBack, .noConnection), (putBack, .queueClosed)] putBack := by
    constructor
    case same => simp
    case accepted => decide
    case named => decide
    case fresh => exact fun draft hcreate => nomatch hcreate
  have hagree : Agree d.store (Replicator.create [.catalogs]).cache := by
    intro id hactive
    have hread := Store.get?_insert .empty "a"
      { (dune "books").record "a" .epoch with active := false } id
    by_cases hid : "a" = id
    · rw [if_pos hid] at hread
      exact nomatch hactive _ hread
    · rw [if_neg hid, Store.get?_empty] at hread
      exact hread.symm
  obtain ⟨-, hpublished, hadds, hupdates, -, hcache⟩ :=
    retried_until_published _ _ _ .zero hrepeats
  have hnone := (hupdates nofun).1
  rw [hnone] at hadds hcache
  refine ⟨hpublished, hadds.size, fun e ack he => ?_⟩
  exact (hcache _ e ack .epoch rfl he hagree).mpr fun x hx => (List.not_mem_nil hx).elim

/-- A book is put on the shelf. -/
def putOn (freshId : String) : Call := ⟨.create (dune "books"), freshId, .epoch, .epoch⟩

/-- A book is put on the shelf with the second try, and then there are two, of which
only the second was published. -/
theorem putOn_leaves_two :
    let d := (opened [] .empty).after []
    let once := (d.call (putOn "b") (.ok .zero)).2
    let retried := d.retry [(putOn "a", .noConnection)] (putOn "b") .zero
    let r := Replicator.create [.catalogs]
    let e : Event := ⟨.zero, .upsert ((dune "books").record "b" .epoch)⟩
    Repeats d.store [(putOn "a", .noConnection)] (putOn "b") ∧ Agree d.store r.cache ∧
    once.store.size = 1 ∧ retried.store.size = 2 ∧ retried.published = [e.change] ∧
    ¬ Agree retried.store (r.handle e (.ok ())).2.cache := by
  intro d once retried r e
  refine ⟨?_, ?_, rfl, rfl, rfl, fun hagree => ?_⟩
  · constructor
    case same => simp [putOn]
    case accepted => decide
    case named => decide
    case fresh =>
      intro draft _
      exact ⟨by decide, fun id _ => Store.get?_empty id⟩
  · exact fun id _ => (Store.get?_empty id).symm
  · -- the first copy is in the store, and not in the cache
    have hactive : ∀ x, retried.store.get? "a" = some x → x.active = true := by
      intro x hx
      cases hx
      rfl
    exact nomatch hagree "a" hactive

end Desk
end Service
end CatalogReplica
