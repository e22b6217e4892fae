/-
# CatalogReplica.Proofs.Replication.ConcurrentWriters -- writers that overtake each other

A call writes to the store first and publishes afterwards. Nothing holds the two
together: no lock spans them, and neither the change nor the cache carries a version. So
of two calls that run at the same time the one that the store takes first can be
published last, and then the caches follow the log, not the store.

What holds is told by two calls for every id: the one that the store took last, and the
one that was published last. The store has what the first of them left, and every cache
ends with what the second left. They are the same call whenever no call was published
after one on the same id that the store took later; in particular whenever calls on one
id do not overlap.
-/
import CatalogReplica.Proofs.Replication.Redelivery
import CatalogReplica.Proofs.Replication.WriteThrough
import CatalogReplica.Proofs.Runs

namespace CatalogReplica

namespace Service

open Cache (Edit lastSaid?)

/-! ## What a history says about an id -/

/-- What readers should find under its id after a call. -/
def outcome (d : Call × Taken) : Option Record :=
  match d.1.write.action with
  | .upsert => some d.2.record
  | .delete => none

namespace History

/-- The last call about an id, with what it came to. -/
def last? (h : History) (id : String) : Option (Call × Taken) :=
  (h.taken.filter fun d => d.1.target = id).getLast?

theorem lastAction?_eq (h : History) (id : String) :
    h.lastAction? id = (h.last? id).map fun d => d.1.write.action := rfl

theorem last?_snoc (s s' : Store) (ds : List (Call × Taken)) (d : Call × Taken) (id : String) :
    (History.mk s' (ds ++ [d])).last? id =
      if d.1.target = id then some d else (History.mk s ds).last? id := by
  unfold last?
  rw [List.filter_append, List.getLast?_append]
  by_cases htarget : d.1.target = id
  · simp [htarget]
  · simp [htarget]

/-- Every call in a history was taken by some store, and left what such calls leave. -/
def Made (h : History) : Prop :=
  ∀ d ∈ h.taken, ∃ s, Leaves s d.1.freshId d.1.write d.2

/-- What the log of a history says last about an id is what its last call about the id
left. -/
theorem Made.lastSaid? {domains : List Domain} (hcatalogs : domains.contains .catalogs = true)
    {h : History} (hmade : h.Made) (id : String) :
    lastSaid? id (h.edits domains) = (h.last? id).map outcome := by
  obtain ⟨s, ds⟩ := h
  induction ds using List.reverseRecOn with
  | nil => rfl
  | append_singleton ds d ih =>
    obtain ⟨c, t⟩ := d
    obtain ⟨s', hleaves⟩ := hmade (c, t) (List.mem_append_right ds List.mem_cons_self)
    have hbefore : Cache.lastSaid? id (edits domains ⟨s', ds⟩) =
        ((History.mk s ds).last? id).map outcome :=
      ih fun e he => hmade e (List.mem_append_left _ he)
    rw [lastSaid?_snoc hcatalogs ds hleaves s id, last?_snoc s, hbefore]
    split
    · rfl
    · rfl

/-- The store has, for every id, the record that the last call about it left. -/
structure Kept (h : History) : Prop where
  sound : h.store.Sound
  made : h.Made
  stored : ∀ id, h.store.get? id = (h.last? id).map fun d => d.2.record
  regular : h.LeapsEndMinutes

theorem kept_start : start.Kept where
  sound := Store.sound_empty
  regular := leapsEndMinutes_start
  made d hd := by cases hd
  stored id := Store.get?_empty id

/-- One call keeps to that, whether it succeeds or not. -/
theorem Kept.call {h : History} (hk : h.Kept) {c : Call} (hfresh : c.freshId.isEmpty = false) :
    (h.call c).Kept := by
  have hregular := hk.regular.call c
  unfold History.call at hregular ⊢
  cases htake : take h.store c.freshId c.now c.write with
  | error f => exact hk
  | ok t =>
    have hleaves := take_eq_ok hk.sound hfresh htake
    constructor
    case regular =>
      rw [htake] at hregular
      exact hregular
    case sound => exact hleaves.sound hk.sound
    case made =>
      intro d hd
      rcases List.mem_append.mp hd with hold | hnew
      · exact hk.made d hold
      · obtain rfl := List.mem_singleton.mp hnew
        exact ⟨h.store, hleaves⟩
    case stored =>
      intro id
      rw [last?_snoc h.store]
      show t.store.get? id = _
      rw [hleaves.get?]
      by_cases htarget : c.target = id
      · have hkey : c.write.target c.freshId = id := htarget
        rw [if_pos htarget, if_pos hkey]
        rfl
      · have hkey : ¬ c.write.target c.freshId = id := htarget
        rw [if_neg htarget, if_neg hkey]
        exact hk.stored id

end History

/-! ## Concurrent calls -/

/-- What concurrent calls have done so far: those that the store has taken, in its
order, and of these the ones whose changes have been published, by their positions and
in the order of the log. -/
structure Writers where
  history : History
  published : List Nat

/-- A step of one of the calls. -/
inductive Writers.Step where
  /-- The store takes the write of a call, or refuses it. -/
  | write (c : Call)
  /-- The change of a call that the store has taken is appended to the log. -/
  | publish (k : Nat)

namespace Writers

/-- Nobody has written anything. -/
def start : Writers := ⟨.start, []⟩

/-- Takes a step. A change can be published once, and only after its write. -/
def step (w : Writers) : Step → Option Writers
  | .write c => some { w with history := w.history.call c }
  | .publish k =>
    if k < w.history.taken.length ∧ k ∉ w.published then
      some { w with published := w.published ++ [k] }
    else none

/-- Takes steps in order. -/
def run (w : Writers) (steps : List Step) : Option Writers := steps.foldlM step w

/-- Every call has returned. -/
def AllReturned (w : Writers) : Prop := ∀ k < w.history.taken.length, k ∈ w.published

instance (w : Writers) : Decidable w.AllReturned := by
  unfold AllReturned
  infer_instance

/-- Whether the call at a position is about an id. -/
def isAbout (w : Writers) (id : String) (k : Nat) : Bool :=
  (w.history.taken[k]?).any fun d => d.1.target = id

/-- The last call about an id in an order of calls. -/
def lastAbout? (w : Writers) (id : String) (ks : List Nat) : Option Nat :=
  (ks.filter (w.isAbout id)).getLast?

/-- The call about an id that the store took last. -/
def lastWritten? (w : Writers) (id : String) : Option Nat :=
  w.lastAbout? id (List.range w.history.taken.length)

/-- The call about an id that was published last. -/
def lastPublished? (w : Writers) (id : String) : Option Nat := w.lastAbout? id w.published

/-- What readers should find after a call. -/
def outcome? (w : Writers) (k : Nat) : Option Record := w.history.taken[k]?.bind outcome

/-- The calls in the order of the log. -/
def inLogOrder (w : Writers) : History :=
  ⟨w.history.store, w.published.filterMap fun k => w.history.taken[k]?⟩

/-- What has been published, as it stands on the wire. -/
def log (w : Writers) : List String := w.inLogOrder.log

/-- No call about an id was published after a later write of the same id. -/
def InOrder (w : Writers) (id : String) : Prop :=
  w.published.Pairwise fun k l => w.isAbout id k → w.isAbout id l → k < l

/-- A cache has, under an id, what the last write of the id asks for: the record that
was created or updated, and nothing where it was deleted. -/
def Reached (w : Writers) (c : Cache) (id : String) : Prop :=
  (w.history.lastAction? id = some .upsert →
    (c.get? id).isSome ∧ c.get? id = w.history.store.get? id) ∧
  (w.history.lastAction? id = some .delete → c.get? id = none)

instance (w : Writers) (c : Cache) (id : String) : Decidable (w.Reached c id) := by
  unfold Reached
  infer_instance

/-! ## Steps and runs -/

/-- What holds all the time. -/
structure Good (w : Writers) : Prop where
  kept : w.history.Kept
  written : ∀ k ∈ w.published, k < w.history.taken.length

theorem good_start : start.Good where
  kept := History.kept_start
  written k hk := by cases hk

theorem length_le_call (h : History) (c : Call) :
    h.taken.length ≤ (h.call c).taken.length := by
  unfold History.call
  cases take h.store c.freshId c.now c.write with
  | error f => exact Nat.le_refl _
  | ok t => simp

theorem Good.step {w w' : Writers} (hw : w.Good) {s : Step} (h : w.step s = some w')
    (hfresh : ∀ c, s = .write c → c.freshId.isEmpty = false) : w'.Good := by
  cases s with
  | write c =>
    cases h
    refine ⟨hw.kept.call (hfresh c rfl), ?_⟩
    intro k hk
    exact Nat.lt_of_lt_of_le (hw.written k hk) (length_le_call w.history c)
  | publish k =>
    simp only [Writers.step] at h
    split at h
    case isTrue hk =>
      cases h
      refine ⟨hw.kept, ?_⟩
      intro l hl
      rcases List.mem_append.mp hl with hold | hnew
      · exact hw.written l hold
      · exact List.mem_singleton.mp hnew ▸ hk.1
    case isFalse => cases h

theorem Good.run {w w' : Writers} (hw : w.Good) {steps : List Step} (h : w.run steps = some w')
    (hfresh : ∀ c, .write c ∈ steps → c.freshId.isEmpty = false) : w'.Good := by
  refine foldlM_preserves ?_ hw h
  intro s hs v v' hv hstep
  exact hv.step hstep fun c hc => hfresh c (hc ▸ hs)

/-- What the log spells can be read, in the order of the log. -/
theorem Good.log_read {w : Writers} (hw : w.Good) :
    w.log.mapM (fun payload => Change.ofOctets (Octets.ofString payload)) =
      .ok (w.inLogOrder.taken.map fun (c, t) => t.change.publishedAt c.publishedAt) := by
  refine History.log_read ⟨hw.kept.regular.store, fun d hd => ?_⟩
  obtain ⟨k, -, hk⟩ := List.mem_filterMap.mp hd
  exact hw.kept.regular.taken d (List.mem_of_getElem? hk)

/-! ## The last call about an id -/

/-- The last call about an id, in any order of calls. -/
theorem last?_of_order (w : Writers) (s : Store) (id : String) (ks : List Nat) :
    (History.mk s (ks.filterMap fun k => w.history.taken[k]?)).last? id =
      (w.lastAbout? id ks).bind fun k => w.history.taken[k]? := by
  unfold lastAbout? isAbout
  induction ks using List.reverseRecOn with
  | nil => rfl
  | append_singleton ks k ih =>
    rw [List.filterMap_append, List.filter_append, List.getLast?_append]
    cases hk : w.history.taken[k]? with
    | none => simpa [hk] using ih
    | some d =>
      have hone : [k].filterMap (fun k => w.history.taken[k]?) = [d] := by simp [hk]
      rw [hone, History.last?_snoc s, ih]
      by_cases htarget : d.1.target = id
      · simp [hk, htarget]
      · simp [hk, htarget]

theorem last?_history (w : Writers) (id : String) :
    w.history.last? id = (w.lastWritten? id).bind fun k => w.history.taken[k]? := by
  have htaken : (List.range w.history.taken.length).filterMap (fun k => w.history.taken[k]?) =
      w.history.taken := by
    have h := Replicator.filterMap_eq_range w.history.taken some
    rw [List.filterMap_some] at h
    simpa using h.symm
  have hlast := w.last?_of_order w.history.store id (List.range w.history.taken.length)
  rw [htaken] at hlast
  exact hlast

/-- The same call is last in both orders if no call about the id was overtaken. -/
theorem lastPublished?_eq_lastWritten? {w : Writers} (hw : w.Good) (hdone : w.AllReturned)
    {id : String} (horder : w.InOrder id) : w.lastPublished? id = w.lastWritten? id := by
  have hmem : ∀ k, k ∈ w.published ↔ k ∈ List.range w.history.taken.length := by
    intro k
    rw [List.mem_range]
    exact ⟨hw.written k, hdone k⟩
  unfold lastPublished? lastWritten? lastAbout?
  have hguard : ∀ k, (Option.guard (w.isAbout id) k).isSome → w.isAbout id k := by
    intro k hk
    simpa using hk
  rw [← List.filterMap_eq_filter]
  refine Replicator.getLast?_filterMap_eq hmem ?_ ?_
  · refine horder.imp fun hkl hk hl => ?_
    exact Nat.le_of_lt (hkl (hguard _ hk) (hguard _ hl))
  · exact List.pairwise_lt_range.imp fun hkl _ _ => Nat.le_of_lt hkl

/-- An id that no call is about was not published either. -/
theorem Good.lastPublished?_eq_none {w : Writers} (hw : w.Good) {id : String}
    (h : w.lastWritten? id = none) : w.lastPublished? id = none := by
  unfold lastWritten? lastPublished? lastAbout? at *
  rw [List.getLast?_eq_none_iff, List.filter_eq_nil_iff] at *
  intro k hk
  exact h k (List.mem_range.mpr (hw.written k hk))

/-! ## What caches end with -/

/-- Whoever has applied the whole log serves, for every id, what the call left that was
published last. -/
theorem Good.serves {domains : List Domain} (hcatalogs : domains.contains .catalogs = true)
    {w : Writers} (hw : w.Good) {events : List (Event × Verdict)}
    (hevents : events.map (fun d => d.1.change) =
      w.inLogOrder.taken.map fun (c, t) => t.change.publishedAt c.publishedAt) :
    ((Replicator.create domains).handleAll events).cache.Serves
      fun id => (w.lastPublished? id).bind w.outcome? := by
  have hmade : w.inLogOrder.Made := by
    intro d hd
    obtain ⟨k, -, hk⟩ := List.mem_filterMap.mp hd
    exact hw.kept.made d (List.mem_of_getElem? hk)
  have hend : ((Replicator.create domains).handleAll events).cache =
      Cache.empty.afterEdits (w.inLogOrder.edits domains) := by
    rw [Replicator.handleAll_cache]
    exact congrArg Cache.empty.afterEdits (History.edits_eq_of_read hevents)
  have hview : (Cache.empty.afterEdits (w.inLogOrder.edits domains)).get? =
      fun id => (w.lastPublished? id).bind w.outcome? := by
    funext id
    have hlast : w.inLogOrder.last? id =
        (w.lastPublished? id).bind fun k => w.history.taken[k]? :=
      w.last?_of_order w.history.store id w.published
    rw [Cache.get?_afterEdits, hmade.lastSaid? hcatalogs, hlast]
    unfold outcome?
    cases w.lastPublished? id with
    | none => rfl
    | some k =>
      rw [Option.bind_some, Option.bind_some]
      cases w.history.taken[k]? <;> rfl
  have hserves := Cache.serves_of_consistent
    (Cache.consistent_afterEdits Cache.consistent_empty (w.inLogOrder.edits domains))
  rw [hview] at hserves
  rw [hend]
  exact hserves

/-- A cache has what the last write of an id asks for exactly when the call published
last left the same. -/
theorem Good.reached_iff {w : Writers} (hw : w.Good) {c : Cache} {id : String}
    (hc : c.get? id = (w.lastPublished? id).bind w.outcome?) :
    w.Reached c id ↔
      (w.lastPublished? id).bind w.outcome? = (w.lastWritten? id).bind w.outcome? := by
  have hwritten := w.last?_history id
  unfold Reached
  rw [History.lastAction?_eq, hw.kept.stored, hc]
  cases hlast : w.lastWritten? id with
  | none =>
    rw [hw.lastPublished?_eq_none hlast]
    rw [hlast] at hwritten
    simp [hwritten]
  | some k =>
    have hmem := List.mem_of_getLast? hlast
    have hk : k < w.history.taken.length := List.mem_range.mp (List.mem_filter.mp hmem).1
    rw [hlast, Option.bind_some, List.getElem?_eq_getElem hk] at hwritten
    rw [hwritten, Option.bind_some, outcome?, List.getElem?_eq_getElem hk, Option.bind_some,
      outcome]
    generalize (w.lastPublished? id).bind w.outcome? = found
    generalize w.history.taken[k] = d
    cases haction : d.1.write.action with
    | upsert =>
      simp only [Option.map_some, haction, forall_const, reduceCtorEq, IsEmpty.forall_iff, and_true,
        Option.some.injEq]
      constructor
      · exact And.right
      · rintro rfl
        exact ⟨rfl, rfl⟩
    | delete => simp [haction]

/-! ## What the log brings to caches -/

/-- Whatever concurrent calls do, once all have returned every cache that has applied the
log serves what the calls left that were published last. It has what the last write of
an id asks for exactly when the call on that id which was published last left the same as
the one which the store took last; so in particular when these are one call, as they are
if no call on the id was published after a later write of it. -/
theorem reached_iff_last_published {domains : List Domain}
    (hcatalogs : domains.contains .catalogs = true) {steps : List Step} {w : Writers}
    (hrun : start.run steps = some w)
    (hfresh : ∀ c, .write c ∈ steps → c.freshId.isEmpty = false) (hdone : w.AllReturned) :
    ∃ changes, w.log.mapM (fun payload => Change.ofOctets (Octets.ofString payload)) =
        .ok changes ∧
      ∀ events : List (Event × Verdict), events.map (fun d => d.1.change) = changes →
        let c := ((Replicator.create domains).handleAll events).cache
        c.Serves (fun id => (w.lastPublished? id).bind w.outcome?) ∧
        (∀ id, w.Reached c id ↔
          (w.lastPublished? id).bind w.outcome? = (w.lastWritten? id).bind w.outcome?) ∧
        (∀ id, w.lastPublished? id = w.lastWritten? id → w.Reached c id) ∧
        (∀ id, w.InOrder id → w.lastPublished? id = w.lastWritten? id) := by
  have hw : w.Good := good_start.run hrun hfresh
  refine ⟨_, hw.log_read, ?_⟩
  intro events hevents c
  have hserves := hw.serves hcatalogs hevents
  have hiff (id : String) := hw.reached_iff (hserves.get? id)
  refine ⟨hserves, hiff, ?_, ?_⟩
  · intro id hsame
    rw [hiff, hsame]
  · intro id horder
    exact lastPublished?_eq_lastWritten? hw hdone horder

/-! ## Calls that overlap -/

/-- Two books are created, and the first is moved twice while the second is moved and
deleted. All of these are written before any of them is published. -/
def writes : List Step := [
  .write ⟨.create (Replicator.dune "books"), "a", .epoch, .epoch⟩,
  .write ⟨.create (Replicator.dune "books"), "b", .epoch, .epoch⟩,
  .write ⟨.update "a" (Replicator.dune "novels"), "c", .epoch, .epoch⟩,
  .write ⟨.update "b" (Replicator.dune "novels"), "c", .epoch, .epoch⟩,
  .write ⟨.update "a" (Replicator.dune "classics"), "c", .epoch, .epoch⟩,
  .write ⟨.delete "b", "c", .epoch, .epoch⟩]

/-- The calls on the second book are published before those on the first, but in the
order of their writes. -/
def aligned : List Step := writes ++ [1, 3, 5, 0, 2, 4].map .publish

/-- On either book the last call overtakes the one before it. -/
def overtaken : List Step := writes ++ [0, 1, 4, 2, 5, 3].map .publish

theorem writes_fresh {ks : List Nat} :
    ∀ c, .write c ∈ writes ++ ks.map .publish → c.freshId.isEmpty = false := by
  intro c hc
  simp only [writes, List.mem_append, List.mem_cons, List.mem_map, reduceCtorEq, and_false,
    exists_false, List.not_mem_nil, or_false, Step.write.injEq] at hc
  rcases hc with rfl | rfl | rfl | rfl | rfl | rfl <;> decide

/-- Calls that overlap, but are published in the order of their writes, reach the
caches. -/
theorem aligned_calls_reach_cache :
    ∃ w changes, start.run aligned = some w ∧ w.AllReturned ∧
      w.log.mapM (fun payload => Change.ofOctets (Octets.ofString payload)) = .ok changes ∧
      ∀ events : List (Event × Verdict), events.map (fun d => d.1.change) = changes →
        let c := ((Replicator.create [.catalogs]).handleAll events).cache
        c.get? "a" = some ((Replicator.dune "classics").record "a" .epoch) ∧
        c.get? "b" = none := by
  have hcatalogs : [Domain.catalogs].contains .catalogs = true := rfl
  obtain ⟨w, hrun⟩ : ∃ w, start.run aligned = some w := ⟨_, rfl⟩
  have hw : start.run aligned = some w → w.AllReturned ∧ w.InOrder "a" ∧ w.InOrder "b" ∧
      w.history.lastAction? "a" = some .upsert ∧ w.history.lastAction? "b" = some .delete ∧
      w.history.store.get? "a" = some ((Replicator.dune "classics").record "a" .epoch) := by
    rintro ⟨⟩
    unfold InOrder
    decide +kernel
  obtain ⟨hdone, ha, hb, hupdated, hdeleted, hstored⟩ := hw hrun
  obtain ⟨changes, hread, hcaches⟩ :=
    reached_iff_last_published hcatalogs hrun writes_fresh hdone
  refine ⟨w, changes, hrun, hdone, hread, ?_⟩
  intro events hevents c
  obtain ⟨-, -, hreached, horder⟩ := hcaches events hevents
  obtain ⟨-, hfound⟩ := (hreached "a" (horder "a" ha)).1 hupdated
  exact ⟨hfound.trans hstored, (hreached "b" (horder "b" hb)).2 hdeleted⟩

/-- A call that is overtaken undoes the one that overtook it: caches keep the first book
in a category that it has left, and still show the second, which was deleted. -/
theorem overtaken_calls_undo :
    ∃ w changes, start.run overtaken = some w ∧
      (∀ c, .write c ∈ overtaken → c.freshId.isEmpty = false) ∧ w.AllReturned ∧
      w.log.mapM (fun payload => Change.ofOctets (Octets.ofString payload)) = .ok changes ∧
      let events := changes.map fun c => (⟨.zero, c⟩, .ok ())
      let c := ((Replicator.create [.catalogs]).handleAll events).cache
      ¬ w.Reached c "a" ∧
        w.history.store.get? "a" = some ((Replicator.dune "classics").record "a" .epoch) ∧
        c.get? "a" = some ((Replicator.dune "novels").record "a" .epoch) ∧
      ¬ w.Reached c "b" ∧
        w.history.lastAction? "b" = some .delete ∧
        c.get? "b" = some ((Replicator.dune "novels").record "b" .epoch) := by
  obtain ⟨w, hrun⟩ : ∃ w, start.run overtaken = some w := ⟨_, rfl⟩
  have hread := (good_start.run hrun writes_fresh).log_read
  refine ⟨w, _, hrun, writes_fresh, ?_, hread, ?_⟩
  · cases hrun
    decide +kernel
  · cases hrun
    decide +kernel

end Writers
end Service
end CatalogReplica
