/-
# CatalogReplica.Proofs.Replication.Redelivery -- replaying a log at least once

An entry whose acknowledgement has not succeeded may be delivered again at any
later moment, also after newer entries. A replicator applies whatever it is
handed, in the order in which it is handed it. So a late duplicate of an old
entry takes effect once more, and can undo a newer one of the same record.

How the cache ends up is decided record by record: by the entry that is
delivered last among those that concern the record. It is the cache that the log
itself leaves exactly when for every record that entry does what the last entry
of the log does, in particular when no entry of a record is delivered after a
newer one of the same record.
-/
import CatalogReplica.Proofs.Replication.Edits

namespace CatalogReplica.Replicator

open Cache (Edit lastSaid?)

/-! ## Orders of delivery -/

/-- A delivery: which entry of the log it is of, counted from the beginning, and
what becomes of its acknowledgement. -/
abbrev Delivery := Nat × Verdict

/-- An entry has been delivered, once or more often. -/
def Delivered (ds : List Delivery) (k : Nat) : Prop := k ∈ ds.map Prod.fst

/-- An acknowledgement of an entry has succeeded. -/
def Acknowledged (ds : List Delivery) (k : Nat) : Prop := (k, .ok ()) ∈ ds

/-- The orders in which a log of `n` entries can be delivered at least once:
first deliveries come in the order of the log, and in between an entry may come
again at any time, as long as no acknowledgement of it has succeeded. -/
inductive AtLeastOnce (n : Nat) : List Delivery → Prop
  | start : AtLeastOnce n []
  | first {ds : List Delivery} {k : Nat} (ack : Verdict) : AtLeastOnce n ds → k < n →
      (∀ j < k, Delivered ds j) → ¬ Delivered ds k → AtLeastOnce n (ds ++ [(k, ack)])
  | again {ds : List Delivery} {k : Nat} (ack : Verdict) : AtLeastOnce n ds →
      Delivered ds k → ¬ Acknowledged ds k → AtLeastOnce n (ds ++ [(k, ack)])

/-- Every entry has been acknowledged. -/
def Settled (n : Nat) (ds : List Delivery) : Prop := ∀ k < n, Acknowledged ds k

/-- The events that are delivered. -/
def eventsOf (log : List Event) (ds : List Delivery) : List (Event × Verdict) :=
  ds.filterMap fun (k, ack) => log[k]?.map fun e => (e, ack)

/-- Every entry of the log once, in its order. -/
def onceEach (log : List Event) : List (Event × Verdict) := log.map fun e => (e, .ok ())

theorem AtLeastOnce.lt_of_delivered {n : Nat} {ds : List Delivery} (h : AtLeastOnce n ds)
    {k : Nat} (hk : Delivered ds k) : k < n := by
  induction h with
  | start => simp [Delivered] at hk
  | first ack h hlt hprev hnew ih =>
    rw [Delivered, List.map_append, List.mem_append] at hk
    rcases hk with hk | hk
    · exact ih hk
    · obtain rfl : k = _ := List.mem_singleton.mp hk
      exact hlt
  | again ack h hold hopen ih =>
    rw [Delivered, List.map_append, List.mem_append] at hk
    rcases hk with hk | hk
    · exact ih hk
    · obtain rfl : k = _ := List.mem_singleton.mp hk
      exact ih hold

/-- Once all is settled, exactly the entries of the log have been delivered. -/
theorem delivered_iff_lt {n : Nat} {ds : List Delivery} (h : AtLeastOnce n ds)
    (hdone : Settled n ds) (k : Nat) : Delivered ds k ↔ k < n := by
  constructor
  · exact h.lt_of_delivered
  · intro hk
    exact List.mem_map.mpr ⟨(k, .ok ()), hdone k hk, rfl⟩

/-! ## What entries say about a record -/

/-- What an entry of the log says about an id. -/
def entrySays? (domains : List Domain) (log : List Event) (id : String) (k : Nat) :
    Option (Option Record) :=
  log[k]?.bind fun e => (edit? domains e.change).bind (Edit.says? id)

/-- What the last entry to concern an id says about it, in an order of entries. -/
def lastEntrySays? (domains : List Domain) (log : List Event) (id : String) (ks : List Nat) :
    Option (Option Record) :=
  (ks.filterMap (entrySays? domains log id)).getLast?

/-- The edits of delivered events, read off the positions of the entries. -/
theorem lastSaid?_eventsOf (domains : List Domain) (log : List Event) (ds : List Delivery)
    (id : String) :
    lastSaid? id ((eventsOf log ds).filterMap fun d => edit? domains d.1.change) =
      lastEntrySays? domains log id (ds.map Prod.fst) := by
  unfold lastSaid? lastEntrySays? eventsOf entrySays?
  rw [List.filterMap_filterMap, List.filterMap_filterMap, List.filterMap_map]
  congr 2
  funext d
  obtain ⟨k, ack⟩ := d
  cases h : log[k]? <;> simp [h]

theorem filterMap_eq_range {α β : Type} (l : List α) (f : α → Option β) :
    l.filterMap f = (List.range l.length).filterMap fun k => l[k]?.bind f := by
  induction l using List.reverseRecOn with
  | nil => rfl
  | append_singleton l a ih =>
    rw [List.length_append, List.length_singleton, List.range_succ, List.filterMap_append,
      List.filterMap_append, ih]
    congr 1
    · refine List.filterMap_congr fun k hk => ?_
      rw [List.getElem?_append_left (List.mem_range.mp hk)]
    · simp [List.filterMap_cons]

theorem lastSaid?_onceEach (domains : List Domain) (log : List Event) (id : String) :
    lastSaid? id ((onceEach log).filterMap fun d => edit? domains d.1.change) =
      lastEntrySays? domains log id (List.range log.length) := by
  unfold lastSaid? lastEntrySays? onceEach entrySays?
  rw [List.filterMap_map, List.filterMap_filterMap, filterMap_eq_range]
  rfl

/-! ## The last of the entries that matter -/

section Last

variable {β : Type} {w : Nat → Option β} {ks ls : List Nat}

/-- In two lists with the same members that matter, either nothing matters or
there is a last thing to matter in both. -/
theorem isSome_getLast?_filterMap (hmem : ∀ k, k ∈ ks ↔ k ∈ ls) :
    (ks.filterMap w).getLast?.isSome = (ls.filterMap w).getLast?.isSome := by
  have hnil : ks.filterMap w = [] ↔ ls.filterMap w = [] := by
    rw [List.filterMap_eq_nil_iff, List.filterMap_eq_nil_iff]
    exact forall_congr' fun k => by rw [hmem]
  by_cases h : ks.filterMap w = []
  · rw [h, hnil.mp h]
  · have h' : ls.filterMap w ≠ [] := fun e => h (hnil.mpr e)
    rw [List.getLast?_eq_some_getLast h, List.getLast?_eq_some_getLast h']
    rfl

/-- The last thing to matter in a list is at its greatest position, if the
positions that matter do not decrease. -/
theorem getLast?_filterMap_of_le (hsorted : ks.Pairwise fun k l =>
      (w k).isSome → (w l).isSome → k ≤ l) {x : β} (hx : (ks.filterMap w).getLast? = some x) :
    ∃ m ∈ ks, w m = some x ∧ ∀ k ∈ ks, (w k).isSome → k ≤ m := by
  induction ks using List.reverseRecOn with
  | nil => simp at hx
  | append_singleton ks k ih =>
    obtain ⟨hks, -, hlast⟩ := List.pairwise_append.mp hsorted
    rw [List.filterMap_append, List.getLast?_append] at hx
    cases hk : w k with
    | none =>
      have hx' : (ks.filterMap w).getLast? = some x := by simpa [hk] using hx
      obtain ⟨m, hm, hwm, hmax⟩ := ih hks hx'
      refine ⟨m, List.mem_append_left _ hm, hwm, fun l hl hsome => ?_⟩
      rcases List.mem_append.mp hl with hl | hl
      · exact hmax l hl hsome
      · rw [List.mem_singleton.mp hl, hk] at hsome
        cases hsome
    | some y =>
      have hxy : y = x := by simpa [hk] using hx
      subst hxy
      refine ⟨k, List.mem_append_right _ List.mem_cons_self, hk, fun l hl hsome => ?_⟩
      rcases List.mem_append.mp hl with hl | hl
      · exact hlast l hl k List.mem_cons_self hsome (by rw [hk]; rfl)
      · exact Nat.le_of_eq (List.mem_singleton.mp hl)

/-- Two such lists with the same members end alike. -/
theorem getLast?_filterMap_eq (hmem : ∀ k, k ∈ ks ↔ k ∈ ls)
    (hks : ks.Pairwise fun k l => (w k).isSome → (w l).isSome → k ≤ l)
    (hls : ls.Pairwise fun k l => (w k).isSome → (w l).isSome → k ≤ l) :
    (ks.filterMap w).getLast? = (ls.filterMap w).getLast? := by
  have hsome := isSome_getLast?_filterMap (w := w) hmem
  cases hx : (ks.filterMap w).getLast? with
  | none =>
    rw [hx] at hsome
    cases hy : (ls.filterMap w).getLast? with
    | none => rfl
    | some y => simp [hy] at hsome
  | some x =>
    rw [hx] at hsome
    obtain ⟨y, hy⟩ := Option.isSome_iff_exists.mp hsome.symm
    obtain ⟨m, hm, hwm, hmaxm⟩ := getLast?_filterMap_of_le hks hx
    obtain ⟨l, hl, hwl, hmaxl⟩ := getLast?_filterMap_of_le hls hy
    have hml : m = l := by
      apply Nat.le_antisymm
      · exact hmaxl m ((hmem m).mp hm) (by rw [hwm]; rfl)
      · exact hmaxm l ((hmem l).mpr hl) (by rw [hwl]; rfl)
    subst hml
    rw [hy, ← hwm, hwl]

end Last

/-! ## The cache after a settled log -/

/-- A replicator that has worked off every delivery of a log until all of it was
acknowledged serves what the log itself leaves, exactly when for every id the
entry delivered last among those that concern it says the same as the last such
entry of the log. Entries of one record that are never delivered after a newer
one of the same record see to that. -/
theorem redelivery_converges_iff {r : Replicator} (hr : r.cache.Reachable) {log : List Event}
    {ds : List Delivery} (hds : AtLeastOnce log.length ds) (hdone : Settled log.length ds) :
    ((r.handleAll (eventsOf log ds)).cache.Alike (r.handleAll (onceEach log)).cache ↔
      ∀ id, lastEntrySays? r.domains log id (ds.map Prod.fst) =
        lastEntrySays? r.domains log id (List.range log.length)) ∧
    ((∀ id, ds.Pairwise fun a b => (entrySays? r.domains log id a.1).isSome →
        (entrySays? r.domains log id b.1).isSome → a.1 ≤ b.1) →
      (r.handleAll (eventsOf log ds)).cache.Alike (r.handleAll (onceEach log)).cache) := by
  have hmem : ∀ k, k ∈ ds.map Prod.fst ↔ k ∈ List.range log.length := by
    intro k
    rw [List.mem_range]
    exact delivered_iff_lt hds hdone k
  have hget : ∀ id, (r.handleAll (eventsOf log ds)).cache.get? id =
      (lastEntrySays? r.domains log id (ds.map Prod.fst)).getD (r.cache.get? id) := by
    intro id
    rw [handleAll_cache, Cache.get?_afterEdits, lastSaid?_eventsOf]
  have hget' : ∀ id, (r.handleAll (onceEach log)).cache.get? id =
      (lastEntrySays? r.domains log id (List.range log.length)).getD (r.cache.get? id) := by
    intro id
    rw [handleAll_cache, Cache.get?_afterEdits, lastSaid?_onceEach]
  have hiff : (r.handleAll (eventsOf log ds)).cache.Alike (r.handleAll (onceEach log)).cache ↔
      ∀ id, lastEntrySays? r.domains log id (ds.map Prod.fst) =
        lastEntrySays? r.domains log id (List.range log.length) := by
    constructor
    · intro halike id
      have heq := halike.get? id
      rw [hget, hget'] at heq
      -- Both orders have the same entries, so either both say something or neither does.
      have hsome := isSome_getLast?_filterMap (w := entrySays? r.domains log id) hmem
      unfold lastEntrySays? at heq ⊢
      revert heq hsome
      cases (List.filterMap (entrySays? r.domains log id) (ds.map Prod.fst)).getLast? <;>
        cases (List.filterMap (entrySays? r.domains log id) (List.range log.length)).getLast? <;>
        simp
    · intro hlast
      refine Cache.alike_of_get? ?_ ?_ fun id => ?_
      · rw [handleAll_cache]
        exact (hr.afterEdits _).consistent
      · rw [handleAll_cache]
        exact (hr.afterEdits _).consistent
      · rw [hget, hget', hlast]
  refine ⟨hiff, fun hsorted => hiff.mpr fun id => ?_⟩
  refine getLast?_filterMap_eq hmem ?_ ?_
  · exact List.pairwise_map.mpr (hsorted id)
  · exact List.pairwise_lt_range.imp fun hkl _ _ => Nat.le_of_lt hkl

/-! ## A duplicate in time, and a late one -/

/-- A price, and the price it was changed to. -/
def priceLog : List Event :=
  [⟨⟨1, 0, by decide, zero_lt_word⟩, .upsert { Record.ofId "1" with value := "9.99" }⟩,
    ⟨⟨2, 0, by decide, zero_lt_word⟩, .upsert { Record.ofId "1" with value := "12.99" }⟩]

/-- The acknowledgement of the first price fails, and its entry comes again before
the second one. -/
def promptPrice : List Delivery := [(0, .error .noConnection), (0, .ok ()), (1, .ok ())]

/-- The acknowledgement of the first price fails, and its entry comes again after
the second one. -/
def latePrice : List Delivery := [(0, .error .noConnection), (1, .ok ()), (0, .ok ())]

theorem atLeastOnce_firstPrice : AtLeastOnce priceLog.length [(0, .error .noConnection)] :=
  .first _ .start (by decide) (fun j hj => absurd hj (Nat.not_lt_zero j)) (by simp [Delivered])

theorem atLeastOnce_secondPrice {ds : List Delivery} (h : AtLeastOnce priceLog.length ds)
    (h0 : Delivered ds 0) (h1 : ¬ Delivered ds 1) :
    AtLeastOnce priceLog.length (ds ++ [(1, .ok ())]) := by
  refine .first _ h (by decide) (fun j hj => ?_) h1
  rw [Nat.lt_one_iff.mp hj]
  exact h0

theorem settled_prices {ds : List Delivery} (h0 : Acknowledged ds 0) (h1 : Acknowledged ds 1) :
    Settled priceLog.length ds := by
  intro k hk
  have hk' : k = 0 ∨ k = 1 := by
    simp only [priceLog, List.length_cons, List.length_nil] at hk
    omega
  rcases hk' with rfl | rfl
  · exact h0
  · exact h1

/-- A duplicate that no newer price has overtaken does no harm. -/
theorem prompt_duplicate_converges :
    let r := Replicator.create [.catalogs]
    r.cache.Reachable ∧ AtLeastOnce priceLog.length promptPrice ∧
    Settled priceLog.length promptPrice ∧
    (r.handleAll (eventsOf priceLog promptPrice)).cache.Alike
      (r.handleAll (onceEach priceLog)).cache := by
  have hr : (Replicator.create [.catalogs]).cache.Reachable := ⟨[], rfl⟩
  have hds : AtLeastOnce priceLog.length promptPrice := by
    refine atLeastOnce_secondPrice (.again (.ok ()) atLeastOnce_firstPrice ?_ ?_) ?_ ?_ <;>
      simp [Delivered, Acknowledged]
  have hdone : Settled priceLog.length promptPrice :=
    settled_prices (by simp [Acknowledged, promptPrice]) (by simp [Acknowledged, promptPrice])
  refine ⟨hr, hds, hdone, (redelivery_converges_iff hr hds hdone).2 fun id => ?_⟩
  simp [promptPrice]

/-- The old price is served, although the log ends with the new one, every
delivery could be applied and every entry was acknowledged. -/
theorem late_duplicate_undoes_newer_entry :
    let r := Replicator.create [.catalogs]
    priceLog.Pairwise (fun a b => a.id.compare b.id = .lt) ∧
    (∀ e ∈ priceLog, ∃ x, effect r.domains e.change = .ok x) ∧
    AtLeastOnce priceLog.length latePrice ∧ Settled priceLog.length latePrice ∧
    ¬ (r.handleAll (eventsOf priceLog latePrice)).cache.Alike
        (r.handleAll (onceEach priceLog)).cache := by
  refine ⟨by decide, ?_, ?_, ?_, fun halike => ?_⟩
  · intro e he
    simp only [priceLog, List.mem_cons, List.not_mem_nil, or_false] at he
    rcases he with rfl | rfl <;> exact ⟨_, rfl⟩
  · refine .again (.ok ()) (atLeastOnce_secondPrice atLeastOnce_firstPrice ?_ ?_) ?_ ?_ <;>
      simp [Delivered, Acknowledged]
  · exact settled_prices (by simp [Acknowledged, latePrice]) (by simp [Acknowledged, latePrice])
  · have heq := halike.get? "1"
    rw [handleAll_cache, handleAll_cache, Cache.get?_afterEdits, Cache.get?_afterEdits,
      lastSaid?_eventsOf, lastSaid?_onceEach] at heq
    revert heq
    decide

end CatalogReplica.Replicator
