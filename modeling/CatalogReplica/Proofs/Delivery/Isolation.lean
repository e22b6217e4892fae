/-
# CatalogReplica.Proofs.Delivery.Isolation -- clusters and subjects that share a log service

Queues with different keys have nothing to do with each other. Each entry that callers receive
comes from the stream that the settings of their queue name, and through another queue nothing
gets into this stream unless it has the same key. More than that, whatever other queues do makes
no difference: leave out of a run all that happens at queues with other keys, and what is left
is a run too, after which everything is the same as far as this key is concerned
(`SameAt.run`).

So all depends on the keys. Settings with different clusters or subjects have different keys,
unless their names overlap (`isolated_unless_overlapping`); those that overlap share a stream.
-/
import CatalogReplica.Proofs.Delivery.Streams
import CatalogReplica.Proofs.Settings.StreamKeys

namespace CatalogReplica

/-! ## One key of many -/

namespace Streams

variable {s s' t : Streams} {key : String}

/-- The same, as far as one key is concerned. -/
def SameAt (key : String) (s t : Streams) : Prop := ∀ node, s.log key node = t.log key node

theorem SameAt.put (h : s.SameAt key t) (l : Log) : (s.put l).SameAt key (t.put l) := by
  intro node
  by_cases hkey : key = l.key
  · subst hkey
    by_cases hnode : node = l.node
    · subst hnode
      rw [log_put_self, log_put_self]
    · rw [log_put_beside s hnode, log_put_beside t hnode, h node]
  · rw [log_put_apart s hkey, log_put_apart t hkey, h node]

/-- What becomes of a command depends on its stream alone. -/
theorem SameAt.serve {r : Receipt} {c : Command} (h : t.SameAt c.key s) {choice : Log.Choice}
    {o : Outcome} (hserve : s.serve r c choice = some (s', o)) :
    ∃ t', t.serve r c choice = some (t', o) ∧ t'.SameAt c.key s' := by
  obtain ⟨⟨l, o⟩, hlog, heq⟩ := Option.map_eq_some_iff.mp hserve
  cases heq
  rw [← h] at hlog
  exact ⟨t.put l, Option.map_eq_some_iff.mpr ⟨(l, o), hlog, rfl⟩, h.put l⟩

/-- A command changes no stream but its own. -/
theorem sameAt_of_serve {r : Receipt} {c : Command} {choice : Log.Choice} {o : Outcome}
    (hserve : s.serve r c choice = some (s', o)) (hkey : key ≠ c.key) : s'.SameAt key s := by
  obtain ⟨⟨l, o⟩, hlog, heq⟩ := Option.map_eq_some_iff.mp hserve
  cases heq
  have hname : l.key = c.key := (Log.serves_of_serve hlog).names.1
  intro node
  exact log_put_apart s (hname ▸ hkey) node

theorem SameAt.append (h : t.SameAt key s) {id : EntryId} {values : List Octets}
    (happend : s.append key id values = some s') :
    ∃ t', t.append key id values = some t' ∧ t'.SameAt key s' := by
  obtain ⟨l, hl, rfl⟩ := Option.map_eq_some_iff.mp happend
  rw [← h] at hl
  exact ⟨t.put l, Option.map_eq_some_iff.mpr ⟨l, hl, rfl⟩, h.put l⟩

theorem sameAt_of_append {other : String} {id : EntryId} {values : List Octets}
    (happend : s.append other id values = some s') (hkey : key ≠ other) : s'.SameAt key s := by
  obtain ⟨l, hl, rfl⟩ := Option.map_eq_some_iff.mp happend
  obtain ⟨-, -, rfl⟩ := Log.append_eq_some hl
  intro node
  exact log_put_apart s hkey node

end Streams

/-- A queue, for those who look at one key only. -/
def Endpoint.seenAt (key : String) (p : Endpoint) : Option Endpoint :=
  if p.key = key then some p else none

namespace Shared

variable {v w w' : Shared} {key : String} {a : Act} {i : Nat}

/-- The same, as far as one key is concerned. -/
structure SameAt (key : String) (v w : Shared) : Prop where
  streams : v.streams.SameAt key w.streams
  queues : v.queues.map (Endpoint.seenAt key) = w.queues.map (Endpoint.seenAt key)

/-- The key that a queue names. -/
def keyAt (w : Shared) (i : Nat) : Option String := w.queues[i]?.map Endpoint.key

/-- Whether an act concerns a key, where these are the keys of the queues. That a queue is made
concerns all of them, since it gets the next place. -/
def Act.concerns (keyAt : Nat → Option String) (key : String) : Act → Bool
  | .start _ => true
  | .queue i _ => keyAt i = some key
  | .serve i _ _ => keyAt i = some key
  | .append other _ _ => other = key

theorem SameAt.refl (key : String) (w : Shared) : SameAt key w w := ⟨fun _ => rfl, rfl⟩

theorem SameAt.symm (h : SameAt key v w) : SameAt key w v :=
  ⟨fun node => (h.streams node).symm, h.queues.symm⟩

theorem SameAt.trans {u : Shared} (h : SameAt key u v) (h' : SameAt key v w) : SameAt key u w :=
  ⟨fun node => (h.streams node).trans (h'.streams node), h.queues.trans h'.queues⟩

theorem SameAt.queue (h : SameAt key v w) {p : Endpoint} (hp : w.queues[i]? = some p)
    (hkey : p.key = key) : v.queues[i]? = some p := by
  have hseen : (v.queues.map (Endpoint.seenAt key))[i]? = some (some p) := by
    rw [h.queues, List.getElem?_map, hp, Option.map_some, Endpoint.seenAt, if_pos hkey]
  rw [List.getElem?_map] at hseen
  obtain ⟨q, hq, hsame⟩ := Option.map_eq_some_iff.mp hseen
  unfold Endpoint.seenAt at hsame
  split at hsame <;> cases hsame
  exact hq

/-! ## Queues stay in their places -/

theorem keyAt_of_some {p : Endpoint} (hp : w.queues[i]? = some p) : w.keyAt i = some p.key := by
  rw [keyAt, hp, Option.map_some]

/-- A queue that is there keeps its place and its key. -/
theorem keyAt_act (h : w.Good) (hact : w.act a = some w') {k : String}
    (hk : w.keyAt i = some k) : w'.keyAt i = some k := by
  have hset {j : Nat} {p p' : Endpoint} (hp : w.queues[j]? = some p)
      (hsettings : p'.queue.settings = p.queue.settings) :
      (w.queues.set j p')[i]?.map Endpoint.key = some k := by
    by_cases hj : j = i
    · subst hj
      obtain ⟨hlt, -⟩ := List.getElem?_eq_some_iff.mp hp
      rw [keyAt_of_some hp] at hk
      rw [List.getElem?_set_self hlt, Option.map_some, ← hk]
      exact congrArg (fun s => some s.streamKey) hsettings
    · rw [List.getElem?_set_ne hj]
      exact hk
  cases act_eq_some_iff.mp hact with
  | start hcreate =>
    obtain ⟨p, hp, rfl⟩ := Option.map_eq_some_iff.mp hk
    obtain ⟨hlt, -⟩ := List.getElem?_eq_some_iff.mp hp
    exact keyAt_of_some ((List.getElem?_append_left hlt).trans hp)
  | queue hp hp' => exact hset hp ((h.named _ (List.mem_of_getElem? hp)).act hp').2
  | serve hp hs hserve => exact hset hp rfl
  | append happend => exact hk

theorem keyAt_run (h : w.Good) {as : List Act} (hrun : w.run as = some w') {k : String}
    (hk : w.keyAt i = some k) : w'.keyAt i = some k := by
  have hboth : w'.Good ∧ w'.keyAt i = some k := by
    refine foldlM_preserves (P := fun u => u.Good ∧ u.keyAt i = some k) ?_ ⟨h, hk⟩ hrun
    rintro a - u u' ⟨hgood, hu⟩ hact
    exact ⟨hgood.act hact, keyAt_act hgood hact hu⟩
  exact hboth.2

/-! ## What does not concern a key -/

/-- A queue that names another key changes, and this is not seen. -/
theorem map_seenAt_set {p p' : Endpoint} (hp : w.queues[i]? = some p) (hkey : p.key ≠ key)
    (hsettings : p'.queue.settings = p.queue.settings) :
    (w.queues.set i p').map (Endpoint.seenAt key) = w.queues.map (Endpoint.seenAt key) := by
  have hkey' : p'.key ≠ key := by
    rw [Endpoint.key, hsettings]
    exact hkey
  obtain ⟨hlt, -⟩ := List.getElem?_eq_some_iff.mp hp
  refine List.ext_getElem? fun k => ?_
  rw [List.getElem?_map, List.getElem?_map]
  by_cases hk : i = k
  · subst hk
    rw [List.getElem?_set_self hlt, hp, Option.map_some, Option.map_some, Endpoint.seenAt,
      Endpoint.seenAt, if_neg hkey, if_neg hkey']
  · rw [List.getElem?_set_ne hk]

/-- An act that does not concern a key changes nothing as far as this key is concerned. -/
theorem sameAt_of_act (h : w.Good) (hact : w.act a = some w')
    (ha : a.concerns w.keyAt key = false) : SameAt key w' w := by
  cases act_eq_some_iff.mp hact with
  | start hcreate => cases ha
  | queue hp hp' =>
    have hkey := of_decide_eq_false ha
    rw [keyAt_of_some hp, Option.some.injEq] at hkey
    exact ⟨fun _ => rfl, map_seenAt_set hp hkey ((h.named _ (List.mem_of_getElem? hp)).act hp').2⟩
  | serve hp hs hserve =>
    have hkey := of_decide_eq_false ha
    rw [keyAt_of_some hp, Option.some.injEq] at hkey
    have hnames := (h.named _ (List.mem_of_getElem? hp)).sent _ (List.mem_of_getElem? hs)
    refine ⟨Streams.sameAt_of_serve hserve ?_, map_seenAt_set hp hkey rfl⟩
    rw [hnames.key]
    exact Ne.symm hkey
  | append happend =>
    exact ⟨Streams.sameAt_of_append happend (Ne.symm (of_decide_eq_false ha)), rfl⟩

/-! ## What concerns a key -/

/-- An act that concerns a key is possible wherever all is the same as far as this key is
concerned, and it leaves all the same. -/
theorem SameAt.act (hsame : SameAt key v w) (h : w.Good) (hact : w.act a = some w')
    (ha : a.concerns w.keyAt key = true) : ∃ v', v.act a = some v' ∧ SameAt key v' w' := by
  cases act_eq_some_iff.mp hact with
  | start hcreate =>
    refine ⟨_, act_eq_some_iff.mpr (.start hcreate), hsame.streams, ?_⟩
    rw [List.map_append, List.map_append, hsame.queues]
  | queue hp hp' =>
    have hkey := of_decide_eq_true ha
    rw [keyAt_of_some hp, Option.some.injEq] at hkey
    refine ⟨_, act_eq_some_iff.mpr (.queue (hsame.queue hp hkey) hp'), hsame.streams, ?_⟩
    rw [List.map_set, List.map_set, hsame.queues]
  | serve hp hs hserve =>
    have hkey := of_decide_eq_true ha
    rw [keyAt_of_some hp, Option.some.injEq] at hkey
    have hnames := (h.named _ (List.mem_of_getElem? hp)).sent _ (List.mem_of_getElem? hs)
    have hcommand := hnames.key.trans hkey
    subst hcommand
    obtain ⟨streams, hstreams, hleft⟩ := hsame.streams.serve hserve
    refine ⟨_, act_eq_some_iff.mpr (.serve (hsame.queue hp hkey) hs hstreams), hleft, ?_⟩
    rw [served, served, List.map_set, List.map_set, hsame.queues]
  | append happend =>
    obtain rfl := of_decide_eq_true ha
    obtain ⟨streams, hstreams, hleft⟩ := hsame.streams.append happend
    exact ⟨_, act_eq_some_iff.mpr (.append hstreams), hleft, hsame.queues⟩

/-- The queues that act keep their keys, so it does not matter when these are looked at. -/
theorem concerns_of_act (hact : w.act a = some w') {keyAt : Nat → Option String}
    (hkeys : ∀ {i k}, w.keyAt i = some k → keyAt i = some k) (key : String) :
    a.concerns keyAt key = a.concerns w.keyAt key := by
  cases act_eq_some_iff.mp hact with
  | start hcreate => rfl
  | queue hp hp' => simp only [Act.concerns, keyAt_of_some hp, hkeys (keyAt_of_some hp)]
  | serve hp hs hserve => simp only [Act.concerns, keyAt_of_some hp, hkeys (keyAt_of_some hp)]
  | append happend => rfl

/-- Take from a run what concerns a key, and leave out the rest. What is left is a run, and it
leads to the same as far as this key is concerned. -/
theorem SameAt.run {as : List Act} (hsame : SameAt key v w) (h : w.Good)
    (hrun : w.run as = some w') :
    ∃ v', v.run (as.filter (·.concerns w'.keyAt key)) = some v' ∧ SameAt key v' w' := by
  induction as generalizing v w with
  | nil =>
    cases hrun
    exact ⟨v, rfl, hsame⟩
  | cons a as ih =>
    obtain ⟨u, hact, hrest⟩ := Option.bind_eq_some_iff.mp hrun
    have hgood : u.Good := h.act hact
    have hconcerns : a.concerns w'.keyAt key = a.concerns w.keyAt key :=
      concerns_of_act hact (fun hk => keyAt_run hgood hrest (keyAt_act h hact hk)) key
    cases ha : a.concerns w.keyAt key with
    | true =>
      obtain ⟨v₁, hv₁, hsame₁⟩ := hsame.act h hact ha
      obtain ⟨v', hv', hsame'⟩ := ih hsame₁ hgood hrest
      refine ⟨v', ?_, hsame'⟩
      rw [List.filter_cons_of_pos (hconcerns.trans ha), run, List.foldlM_cons, hv₁]
      exact hv'
    | false =>
      have hother : SameAt key v u := hsame.trans (sameAt_of_act h hact ha).symm
      obtain ⟨v', hv', hsame'⟩ := ih hother hgood hrest
      refine ⟨v', ?_, hsame'⟩
      rw [List.filter_cons_of_neg (by rw [hconcerns, ha]; exact Bool.false_ne_true)]
      exact hv'

/-! ## Clusters and subjects -/

/-- Take settings with different clusters or different subjects. They have the same key exactly
if their names overlap. If they do not, nothing that happens to any number of queues can make
one with the first settings and one with the second settings meet: what callers receive from
the one are the changes of entries of its own stream, and of none that was published through
the other; and there is a run without the other, made of acts that have happened anyway, after
which the one is exactly as it is, with all that it was sent and has delivered. -/
theorem isolated_unless_overlapping {s t : QueueSettings}
    (hdiffer : (s.clusterId, s.subject) ≠ (t.clusterId, t.subject)) :
    (s.streamKey = t.streamKey ↔ s.Overlaps t ∨ t.Overlaps s) ∧
    (¬ s.Overlaps t → ¬ t.Overlaps s →
      ∀ (w w' : Shared) (as : List Act) (i j : Nat) (p q : Endpoint), Reachable w →
        w.run as = some w' → w'.queues[i]? = some p → w'.queues[j]? = some q →
        p.queue.settings = s → q.queue.settings = t →
        ¬ w'.DeliversFrom i j ∧
        (∀ e ∈ q.received, ∃ x ∈ w'.streams.entries t.streamKey,
          x.id = e.id ∧ x.change? = some e.change) ∧
        ∃ bs v, bs.Sublist as ∧ (∀ a ∈ bs, a.isOf i = false) ∧ w.run bs = some v ∧
          v.queues[j]? = some q) := by
  have hkeys : s.streamKey = t.streamKey ↔ s.Overlaps t ∨ t.Overlaps s := by
    rw [QueueSettings.streamKey_eq_iff]
    refine or_iff_right fun hsame => hdiffer ?_
    rw [hsame.1, hsame.2]
  refine ⟨hkeys, fun hst hts w w' as i j p q hw hrun hp hq hps hqt => ?_⟩
  have hapart : p.key ≠ q.key := by
    rw [Endpoint.key, Endpoint.key, hps, hqt]
    exact mt hkeys.mp (not_or.mpr ⟨hst, hts⟩)
  have hgood' : w'.Good := (hw.run hrun).good
  have hkey : q.key = t.streamKey := congrArg QueueSettings.streamKey hqt
  refine ⟨fun hdelivers => hapart (hgood'.key_eq_of_deliversFrom hp hq hdelivers), ?_, ?_⟩
  · rw [← hkey]
    exact fun e he => hgood'.received (List.mem_of_getElem? hq) he
  · obtain ⟨v, hv, hsame⟩ := (SameAt.refl q.key w).run hw.good hrun
    refine ⟨_, v, List.filter_sublist, fun a ha => ?_, hv, hsame.queue hq rfl⟩
    have hother {k : Nat} (hk : w'.keyAt k = some q.key) : (k == i) = false := by
      refine beq_eq_false_iff_ne.mpr ?_
      rintro rfl
      rw [keyAt_of_some hp] at hk
      exact hapart (Option.some.inj hk)
    have hconcerns := List.of_mem_filter ha
    cases a with
    | start s => rfl
    | append key id values => rfl
    | queue k a => exact hother (of_decide_eq_true hconcerns)
    | serve k n choice => exact hother (of_decide_eq_true hconcerns)

/-! ## Names that overlap, and names that do not -/

/-- A queue of some cluster that only publishes. -/
def publisherOf (cluster : String) : QueueSettings where
  nodeId := "publisher"
  clusterId := cluster
  writeOnly := true

/-- A queue of the cluster `shop`, for the catalogs of `eu`. -/
def reader : QueueSettings where
  nodeId := "reader"
  clusterId := "shop"
  subject := "eu:catalogs"

/-- Two queues are made. The first one connects and publishes the removal of a record. -/
def publishing (cluster : String) : List Act := [
  .start (publisherOf cluster), .start reader,
  .queue 0 (.move .opened), .queue 0 (.publish (.delete "a") .epoch),
  .serve 0 0 (.name World.removalEntry.id)]

/-- The second one connects, and a caller receives what it reads. -/
def reading : List Act := [
  .queue 1 (.move .opened), .queue 1 (.move .opened),
  .serve 1 0 .obey, .queue 1 (.learn 0), .serve 1 0 .obey, .queue 1 (.learn 0),
  .queue 1 (.move .readerAsked), .serve 1 0 (.find "0-0" []), .queue 1 (.learn 0),
  .serve 1 0 .obey, .queue 1 (.learn 0),
  .queue 1 (.move .handedOn), .queue 1 (.move .forwarderTook), .queue 1 (.move .forwarderPut),
  .queue 1 .receive]

/-- No entry, no group and no queue. -/
def empty : Shared := initial fun _ => []

theorem reachable_empty : Reachable empty :=
  .initial (fun _ _ hx => nomatch hx) fun _ => .nil

/-- What was published, and the settings of the queues with what callers have received. -/
def summary (w : Shared) : List Publication × List (QueueSettings × List EntryId) :=
  (w.published, w.queues.map fun p => (p.queue.settings, p.received.map Event.id))

theorem queues_of_summary {published : List Publication} {s t : QueueSettings} {id : EntryId}
    (h : w.summary = (published, [(s, []), (t, [id])])) : w.published = published ∧
      ∃ p q e, w.queues = [p, q] ∧ p.queue.settings = s ∧ q.queue.settings = t ∧
        q.received = [e] ∧ e.id = id := by
  obtain ⟨hpublished, hqueues⟩ := Prod.ext_iff.mp h
  obtain ⟨p, rest, hw, hp, hrest⟩ := List.map_eq_cons_iff.mp hqueues
  obtain ⟨q, none, rfl, hq, hnone⟩ := List.map_eq_cons_iff.mp hrest
  obtain rfl := List.map_eq_nil_iff.mp hnone
  obtain ⟨hps, -⟩ := Prod.ext_iff.mp hp
  obtain ⟨hqt, hreceived⟩ := Prod.ext_iff.mp hq
  obtain ⟨e, he, hid⟩ := List.map_eq_singleton_iff.mp hreceived
  exact ⟨hpublished, p, q, e, hw, hps, hqt, he, hid⟩

/-- The cluster `shop-eu` publishes an entry, and somebody else appends the same one, with the
same id, to the stream of the reader. What is received is the latter. -/
theorem reader_isolated :
    ∃ w q e, empty.run (publishing "shop-eu" ++
        [.append reader.streamKey World.removalEntry.id World.removalEntry.values] ++ reading) =
          some w ∧
      w.published = [⟨0, "shop-eu:catalogs", World.removalEntry.id⟩] ∧
      w.queues[1]? = some q ∧ q.received = [e] ∧ e.id = World.removalEntry.id ∧
      ¬ w.DeliversFrom 0 1 := by
  have hrun : (empty.run (publishing "shop-eu" ++
      [.append reader.streamKey World.removalEntry.id World.removalEntry.values] ++ reading)).map
        summary = some ([⟨0, "shop-eu:catalogs", World.removalEntry.id⟩],
          [(publisherOf "shop-eu", []), (reader, [World.removalEntry.id])]) := by
    decide +kernel
  obtain ⟨w, hw, hsummary⟩ := Option.map_eq_some_iff.mp hrun
  obtain ⟨hpublished, p, q, e, hqueues, hps, hqt, he, hid⟩ := queues_of_summary hsummary
  have hp : w.queues[0]? = some p := by
    rw [hqueues]
    rfl
  have hq : w.queues[1]? = some q := by
    rw [hqueues]
    rfl
  -- neither name of a cluster has a colon
  have hpr : ¬ (publisherOf "shop-eu").Overlaps reader :=
    QueueSettings.not_overlaps_of_cluster (by decide)
  have hrp : ¬ reader.Overlaps (publisherOf "shop-eu") :=
    QueueSettings.not_overlaps_of_cluster (by decide)
  obtain ⟨hnot, -, -⟩ := (isolated_unless_overlapping (by decide)).2 hpr hrp empty w _ 0 1 p q
    reachable_empty hw hp hq hps hqt
  exact ⟨w, q, e, hw, hpublished, hq, he, hid, hnot⟩

/-- The cluster `shop:eu` with its catalogs, and the cluster `shop` with the catalogs of `eu`:
both settings are accepted and differ in both names, and what is published through a queue of
the one is received from a queue of the other. -/
theorem overlapping_names_share_stream :
    (publisherOf "shop:eu").validate = .ok () ∧ reader.validate = .ok () ∧
    (publisherOf "shop:eu").clusterId ≠ reader.clusterId ∧
    (publisherOf "shop:eu").subject ≠ reader.subject ∧
    (publisherOf "shop:eu").streamKey = reader.streamKey ∧
    ∃ w p q, Reachable w ∧ w.queues[0]? = some p ∧ p.queue.settings = publisherOf "shop:eu" ∧
      w.queues[1]? = some q ∧ q.queue.settings = reader ∧ w.DeliversFrom 0 1 := by
  refine ⟨by rfl, by rfl, by decide, by decide, by decide, ?_⟩
  have hrun : (empty.run (publishing "shop:eu" ++ reading)).map summary =
      some ([⟨0, reader.streamKey, World.removalEntry.id⟩],
        [(publisherOf "shop:eu", []), (reader, [World.removalEntry.id])]) := by
    decide +kernel
  obtain ⟨w, hw, hsummary⟩ := Option.map_eq_some_iff.mp hrun
  obtain ⟨hpublished, p, q, e, hqueues, hps, hqt, he, hid⟩ := queues_of_summary hsummary
  have hp : w.queues[0]? = some p := by
    rw [hqueues]
    rfl
  have hq : w.queues[1]? = some q := by
    rw [hqueues]
    rfl
  refine ⟨w, p, q, reachable_empty.run hw, hp, hps, hq, hqt, q, e, hq, ?_, ?_⟩
  · rw [he]
    exact List.mem_singleton_self e
  · rw [hpublished, Endpoint.key, hqt, hid]
    exact List.mem_singleton_self _

end Shared
end CatalogReplica
