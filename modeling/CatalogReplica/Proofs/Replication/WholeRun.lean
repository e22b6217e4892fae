/-
# CatalogReplica.Proofs.Replication.WholeRun -- from the beginning to the end

The signals of a replication follow a plan: loading, the two steps in which the node
becomes ready and enters the streaming state, and then either a failed subscription or
events until the end. On the signals of the plan a course arrives exactly where
`replicate` does, for every mixture of what can fail on the way, and what others see
meanwhile and what is acknowledged can be read off the plan.
-/
import CatalogReplica.Proofs.Replication.Applying
import CatalogReplica.Proofs.Replication.Course

namespace CatalogReplica.Replicator
namespace Course

/-! ## The plan -/

/-- The signals on which a node with these domains loads. -/
def loadingSignals (domains : List Domain) (scan : Except Failure (List Record)) : List Signal :=
  if domains.contains .catalogs then
    match scan with
    | .error f => [.scanned (.error f)]
    | .ok found =>
      .scanned (.ok found) :: List.replicate ((found.takeWhile named).length + 1) .store
  else [.passed]

/-- The signals on which it handles an event. The acknowledgement has an outcome only if
it was called. -/
def eventSignals (domains : List Domain) (d : Event × Verdict) : List Signal :=
  if (effect domains d.1.change).isOk then [.received d.1, .acknowledged d.2] else [.received d.1]

/-- The signals after it has entered the streaming state. -/
def streamingSignals (domains : List Domain) (subscribed : Verdict)
    (events : List (Event × Verdict)) (ending : Ending) : List Signal :=
  match subscribed with
  | .error f => [.subscribed (.error f)]
  | .ok () => .subscribed (.ok ()) :: (events.flatMap (eventSignals domains) ++ [.ended ending])

/-- All signals of a replication. -/
def signals (domains : List Domain) (scan : Except Failure (List Record)) (subscribed : Verdict)
    (events : List (Event × Verdict)) (ending : Ending) : List Signal :=
  loadingSignals domains scan ++
    (.announce :: .enter :: streamingSignals domains subscribed events ending)

/-- Storing what was found comes to what loading comes to. -/
theorem run_store {r : Replicator} (h : r.domains.contains .catalogs = true) (found : Nat)
    (xs : List Record) (calls : List (Event × Cache)) :
    run ⟨r, .storing found xs, calls⟩
        (List.replicate ((xs.takeWhile named).length + 1) .store) =
      some (match r.load xs with
        | (.error f, s) => ⟨s, .loaded (.error f), calls⟩
        | (.ok (), s) =>
          ⟨(s.measure (.bootstrapped Domain.catalogs.name found)).measureCache,
            .loaded (.ok ()), calls⟩) := by
  induction xs generalizing r with
  | nil => rfl
  | cons x xs ih =>
    have hstep (n : Nat) :
        run ⟨r, .storing found (x :: xs), calls⟩ (List.replicate (n + 1) .store) =
          (store ⟨r, .storing found (x :: xs), calls⟩ found (x :: xs)).run
            (List.replicate n .store) := by
      rw [List.replicate_succ, run_cons]
      rfl
    rw [hstep]
    cases hx : named x with
    | false =>
      have hfails := apply_upsert_unnamed h hx
      rw [List.takeWhile_cons_of_neg (by simp [hx]), store_of_error hfails, load, hfails]
      rfl
    | true =>
      obtain ⟨s, hs, hcatalogs⟩ := apply_upsert_named h hx
      rw [List.takeWhile_cons_of_pos hx, store_of_ok hs, load, hs]
      exact ih hcatalogs

theorem run_loading (r : Replicator) (scan : Except Failure (List Record)) :
    (start r).run (loadingSignals r.domains scan) =
      some ⟨(r.bootstrap scan).2, .loaded (r.bootstrap scan).1, []⟩ := by
  unfold loadingSignals bootstrap
  split
  case isFalse h =>
    rw [run_cons]
    simp only [start, step, h]
    rfl
  case isTrue h =>
    cases scan with
    | error f =>
      rw [run_cons]
      simp only [start, step, h]
      rfl
    | ok found =>
      rw [run_cons]
      simp only [start, step, h, ↓reduceIte, Option.bind_some, Stage.ofScan, run_store h]
      rw [load_eq h]
      cases found.all named <;> rfl

/-- The calls that some events lead to: one for each event whose change can be applied,
in their order, and each with the cache that the change has just been applied to. -/
def acknowledgements (domains : List Domain) (cache : Cache) : List Event → List (Event × Cache)
  | [] => []
  | e :: es =>
    match effect domains e.change with
    | .error _ => acknowledgements domains cache es
    | .ok f => (e, f.on cache) :: acknowledgements domains (f.on cache) es

theorem acknowledgements_cons_of_error {domains : List Domain} {e : Event} {f : Failure}
    (h : effect domains e.change = .error f) (cache : Cache) (es : List Event) :
    acknowledgements domains cache (e :: es) = acknowledgements domains cache es := by
  rw [acknowledgements, h]

theorem acknowledgements_cons_of_ok {domains : List Domain} {e : Event} {f : Effect}
    (h : effect domains e.change = .ok f) (cache : Cache) (es : List Event) :
    acknowledgements domains cache (e :: es) =
      (e, f.on cache) :: acknowledgements domains (f.on cache) es := by
  rw [acknowledgements, h]

/-- The calls are for exactly the events whose changes can be applied. -/
theorem acknowledgements_events (r : Replicator) (cache : Cache) (es : List Event) :
    (acknowledgements r.domains cache es).map Prod.fst =
      es.filter fun e => (r.apply e.change).isOk := by
  induction es generalizing cache with
  | nil => rfl
  | cons e es ih =>
    cases heffect : effect r.domains e.change with
    | error f =>
      rw [acknowledgements_cons_of_error heffect, ih, List.filter_cons_of_neg]
      rw [isOk_apply, heffect]
      exact Bool.false_ne_true
    | ok f =>
      rw [acknowledgements_cons_of_ok heffect, List.map_cons, ih, List.filter_cons_of_pos]
      rw [isOk_apply, heffect]
      rfl

/-- An event whose change cannot be applied is passed over, and no acknowledgement is
called. -/
theorem run_event_of_error {r : Replicator} {e : Event} {f : Failure}
    (h : effect r.domains e.change = .error f) (loading : Verdict)
    (calls : List (Event × Cache)) (ack : Verdict) :
    run ⟨r, .waiting loading, calls⟩ (eventSignals r.domains (e, ack)) =
      some ⟨(r.handle e ack).2, .waiting loading, calls⟩ := by
  have happly : r.apply e.change = .error f := by
    rw [apply, h]
    rfl
  have hsignals : eventSignals r.domains (e, ack) = [.received e] := by
    rw [eventSignals, h]
    rfl
  have htake := take_of_error (c := ⟨r, .waiting loading, calls⟩) happly loading
  rw [hsignals, run_cons, handle, happly]
  exact congrArg some htake

/-- The acknowledgement of an event is called when its change has been applied, and
whatever comes of it, the next event follows. -/
theorem run_event_of_ok {r : Replicator} {e : Event} {f : Effect}
    (h : effect r.domains e.change = .ok f) (loading : Verdict)
    (calls : List (Event × Cache)) (ack : Verdict) :
    run ⟨r, .waiting loading, calls⟩ (eventSignals r.domains (e, ack)) =
      some ⟨(r.handle e ack).2, .waiting loading, calls ++ [(e, f.on r.cache)]⟩ := by
  obtain ⟨s, happly, hcache⟩ : ∃ s, r.apply e.change = .ok s ∧ s.cache = f.on r.cache := by
    rw [apply, h]
    exact ⟨_, rfl, rfl⟩
  have hsignals : eventSignals r.domains (e, ack) = [.received e, .acknowledged ack] := by
    rw [eventSignals, h]
    rfl
  have htake := take_of_ok (c := ⟨r, .waiting loading, calls⟩) happly loading
  have hgoOn : run (take ⟨r, .waiting loading, calls⟩ loading e) [.acknowledged ack] =
      some ⟨(r.handle e ack).2, .waiting loading, calls ++ [(e, s.cache)]⟩ := by
    rw [htake, run_cons, handle, happly]
    rfl
  rw [hsignals, run_cons, ← hcache]
  exact hgoOn

/-- No event ends the loop: after any events it waits for the next one. -/
theorem run_events (r : Replicator) (loading : Verdict) (calls : List (Event × Cache))
    (events : List (Event × Verdict)) :
    run ⟨r, .waiting loading, calls⟩ (events.flatMap (eventSignals r.domains)) =
      some ⟨r.handleAll events, .waiting loading,
        calls ++ acknowledgements r.domains r.cache (events.map Prod.fst)⟩ := by
  induction events generalizing r calls with
  | nil =>
    rw [List.map_nil, acknowledgements, List.append_nil]
    rfl
  | cons d events ih =>
    obtain ⟨e, ack⟩ := d
    have hnext := ih (r.handle e ack).2
    have hcache : (r.handle e ack).2.cache =
        r.cache.afterEdits (edit? r.domains e.change).toList := handle_cache r e ack
    rw [handle_domains] at hnext
    rw [List.flatMap_cons, List.map_cons]
    cases heffect : effect r.domains e.change with
    | error f =>
      have hsame : (r.handle e ack).2.cache = r.cache := by
        rw [hcache, edit?, heffect]
        rfl
      rw [run_append (run_event_of_error heffect loading calls ack), hnext, hsame,
        acknowledgements_cons_of_error heffect]
      rfl
    | ok f =>
      have hafter : (r.handle e ack).2.cache = f.on r.cache := by
        rw [hcache, edit?, heffect]
        cases f <;> rfl
      rw [run_append (run_event_of_ok heffect loading calls ack), hnext, hafter,
        acknowledgements_cons_of_ok heffect, List.append_assoc]
      rfl

/-- Whoever subscribed handles the events and then closes; whoever could not closes at
once. -/
theorem run_streaming (r : Replicator) (loading subscribed : Verdict)
    (events : List (Event × Verdict)) (ending : Ending) :
    run ⟨r, .subscribing loading, []⟩ (streamingSignals r.domains subscribed events ending) =
      some (close
        ⟨match subscribed with
          | .error _ => r
          | .ok () => r.handleAll events,
        .waiting loading, acknowledgements r.domains r.cache (handled subscribed events)⟩
        loading
        (match subscribed with
          | .error f => .error f
          | .ok () => ending.verdict)) := by
  cases subscribed with
  | error f => rfl
  | ok _ =>
    have hwaiting (ss : List Signal) :
        run ⟨r, .subscribing loading, []⟩ (.subscribed (.ok ()) :: ss) =
          run ⟨r, .waiting loading, []⟩ ss := rfl
    rw [streamingSignals, hwaiting, run_append (run_events r loading [] events)]
    rfl

/-- The course of a replication takes it where `replicate` takes it. -/
theorem run_signals (r : Replicator) (scan : Except Failure (List Record)) (subscribed : Verdict)
    (events : List (Event × Verdict)) (ending : Ending) :
    (start r).run (signals r.domains scan subscribed events ending) =
      some ⟨(r.replicate scan subscribed events ending).2,
        .stopped (r.replicate scan subscribed events ending).1,
        acknowledgements r.domains (r.applyAll ((loadable r.domains scan).map .upsert)).cache
          (handled subscribed events)⟩ := by
  obtain ⟨-, hdomains, hcache⟩ := begin_spec r scan
  have hbegin (ss : List Signal) :
      run ⟨(r.bootstrap scan).2, .loaded (r.bootstrap scan).1, []⟩ (.announce :: .enter :: ss) =
        run ⟨(r.begin scan).2, .subscribing (r.begin scan).1, []⟩ ss := rfl
  have hstream := run_streaming (r.begin scan).2 (r.begin scan).1 subscribed events ending
  rw [hdomains, hcache] at hstream
  rw [signals, run_append (run_loading r scan), hbegin, hstream]
  unfold replicate
  cases subscribed <;> rfl

theorem loadingSignals_quiet {domains : List Domain} {scan : Except Failure (List Record)}
    {s : Signal} (h : s ∈ loadingSignals domains scan) (seen : Sight) :
    s.onSight seen = seen := by
  unfold loadingSignals at h
  split at h
  case isFalse =>
    obtain rfl := List.mem_singleton.mp h
    rfl
  case isTrue =>
    cases scan with
    | error f =>
      obtain rfl := List.mem_singleton.mp h
      rfl
    | ok found =>
      rcases List.mem_cons.mp h with rfl | hstore
      · rfl
      · obtain rfl := List.eq_of_mem_replicate hstore
        rfl

theorem eventSignals_quiet {domains : List Domain} {d : Event × Verdict} {s : Signal}
    (h : s ∈ eventSignals domains d) (seen : Sight) : s.onSight seen = seen := by
  unfold eventSignals at h
  split at h
  · rcases List.mem_cons.mp h with rfl | hack
    · rfl
    · obtain rfl := List.mem_singleton.mp hack
      rfl
  · obtain rfl := List.mem_singleton.mp h
    rfl

/-- While a node streams, the same is seen until the last moment. -/
theorem sights_streaming (r : Replicator) (loading subscribed : Verdict)
    (events : List (Event × Verdict)) (ending : Ending) :
    ∃ n, sights ⟨r, .subscribing loading, []⟩
        (streamingSignals r.domains subscribed events ending) =
      List.replicate n (r.isReady, r.state) ++ [(r.isReady, .stopped)] := by
  cases subscribed with
  | error f => exact ⟨0, rfl⟩
  | ok _ =>
    have hevents := run_events r loading [] events
    obtain ⟨hseen, hlast⟩ := sights_of_quiet hevents fun s hs => by
      obtain ⟨d, -, hd⟩ := List.mem_flatMap.mp hs
      exact eventSignals_quiet hd
    have hready : (r.handleAll events).isReady = r.isReady := congrArg Prod.fst hlast
    refine ⟨(events.flatMap (eventSignals r.domains)).length + 1, ?_⟩
    rw [streamingSignals, sights_cons (d := ⟨r, .waiting loading, []⟩) rfl,
      sights_append hevents, hseen, sights_cons rfl, close_sight, hready]
    rfl

/-- Others see a node as it was until loading has been attempted, then ready, and from
then on ready and streaming until it has stopped. -/
theorem sights_signals (r : Replicator) (scan : Except Failure (List Record))
    (subscribed : Verdict) (events : List (Event × Verdict)) (ending : Ending) :
    ∃ n, (start r).sights (signals r.domains scan subscribed events ending) =
      List.replicate (loadingSignals r.domains scan).length (r.isReady, r.state) ++
        (true, r.state) :: List.replicate (n + 1) (true, .streaming) ++ [(true, .stopped)] := by
  obtain ⟨hseen, hlast⟩ := sights_of_quiet (run_loading r scan) fun s => loadingSignals_quiet
  obtain ⟨n, hstream⟩ :=
    sights_streaming (r.begin scan).2 (r.begin scan).1 subscribed events ending
  rw [(begin_spec r scan).2.1] at hstream
  have hstate : (r.bootstrap scan).2.state = r.state := congrArg Prod.snd hlast
  have hbegun : ((r.begin scan).2.isReady, (r.begin scan).2.state) = (true, .streaming) := rfl
  have hready : (r.begin scan).2.isReady = true := rfl
  have hentered : sights ⟨(r.bootstrap scan).2, .loaded (r.bootstrap scan).1, []⟩
      (.announce :: .enter :: streamingSignals r.domains subscribed events ending) =
        (true, r.state) :: (true, .streaming) ::
          sights ⟨(r.begin scan).2, .subscribing (r.begin scan).1, []⟩
            (streamingSignals r.domains subscribed events ending) := by
    rw [sights_cons rfl, announce_sight, sights_cons rfl, ← hstate]
    rfl
  refine ⟨n, ?_⟩
  rw [signals, sights_append (run_loading r scan), hseen, hentered, hstream, hbegun, hready,
    List.replicate_succ, List.append_assoc]
  rfl

end Course

/-! ## A whole replication -/

/-- What a replication of a new node does. It takes the steps of `Course.signals`, and
comes to the verdict and the replicator that `replicate` tells.

* Its cache is that of applying the records that could be loaded and then the changes of
  the events, in their order; changes of other domains, changes without a record and
  records without an id might as well not have come.
* An acknowledgement was called, in the order of the events, for each event whose change
  could be applied, at the moment when the cache had just taken that change, and for no
  other event.
* The node was not ready until loading had been attempted, and was ready ever after; its
  state was loading, then streaming, then stopped.
* The verdict is the failure to subscribe, else that the stream has ended, else what
  loading came to. -/
theorem replicate_spec (domains : List Domain) (cache : Cache)
    (scan : Except Failure (List Record)) (subscribed : Verdict)
    (events : List (Event × Verdict)) (ending : Ending) :
    let r : Replicator := { create domains with cache := cache }
    let result := r.replicate scan subscribed events ending
    let signals := Course.signals domains scan subscribed events ending
    let loaded : List Change := (loadable domains scan).map .upsert
    let handled := handled subscribed events
    ∃ calls,
      (Course.start r).run signals = some ⟨result.2, .stopped result.1, calls⟩ ∧
      result.2.cache = (r.applyAll (loaded ++ handled.map Event.change)).cache ∧
      (∀ before c after, IsIdle domains c →
        (r.applyAll (before ++ c :: after)).cache = (r.applyAll (before ++ after)).cache) ∧
      calls = Course.acknowledgements domains (r.applyAll loaded).cache handled ∧
      calls.map Prod.fst = handled.filter (fun e => (r.apply e.change).isOk) ∧
      (∃ n, (Course.start r).sight :: (Course.start r).sights signals =
        List.replicate ((Course.loadingSignals domains scan).length + 1) (false, .loading) ++
          (true, .loading) :: List.replicate (n + 1) (true, .streaming) ++ [(true, .stopped)]) ∧
      result.1 = (match subscribed, ending with
        | .error f, _ => .error f
        | .ok (), .streamEnded => .error .streamClosed
        | .ok (), .shutdown => loadingVerdict domains scan) := by
  intro r result signals loaded handled
  have hrun := Course.run_signals r scan subscribed events ending
  have hcalls := Course.acknowledgements_events r (r.applyAll loaded).cache handled
  obtain ⟨n, hsights⟩ := Course.sights_signals r scan subscribed events ending
  refine ⟨_, hrun, replicate_cache r scan subscribed events ending, ?_, rfl, hcalls, ⟨n, ?_⟩,
    replicate_verdict r scan subscribed events ending⟩
  · intro before c after hidle
    exact applyAll_cache_of_isIdle r hidle before after
  · exact congrArg (List.cons (Course.start r).sight) hsights

end CatalogReplica.Replicator
