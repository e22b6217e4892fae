/-
# CatalogReplica.Proofs.Queue.Closing -- closing a queue, and what is left of it

Closing takes handles until there are none, and what it takes decides when it is over.
Tasks may go on in the meantime: a recovery may still wait for a reader, and a connection
that is made too late is given up. This module puts together what was said about handles
and about crews that were closed: however the tasks take turns after a queue was told to
close, the call can return, and when it does there is no task and no connection any more,
and there never will be.

A task is told to end and then ends between two of its waits. So nothing here says when
closing is over, only that it does not depend on the service.
-/
import CatalogReplica.Proofs.Queue.Handles
import CatalogReplica.Proofs.Queue.ReadingOrder

namespace CatalogReplica

open Crew (Handle Act RecoveryTask)

/-! ## After closing -/

namespace Supervised

variable {s : Supervised} {d : Deed} {ds : List Deed}

/-- What a closed queue may still do. -/
theorem closed_deed (h : s.crew.IsClosed) (hawaited : s.awaited = none)
    {e : Supervised × List Command} (hdeed : s.deed d = some e) :
    e.2 = [] ∧ Crew.Aftermath s.crew e.1.crew ∧ e.1.awaited = none ∧
      e.1.recovered = s.recovered := by
  cases d with
  | joined => simp [deed, joined, hawaited] at hdeed
  | drained => simp [deed, drained, hawaited] at hdeed
  | act a =>
    by_cases hbegin : a = .beginClose
    · simp [hbegin, deed, beginClose, Crew.beginClose, h.closing] at hdeed
    by_cases hfinish : a = .finishClose
    · simp [hfinish, deed, finishClose, hawaited] at hdeed
    rw [deed_act hbegin hfinish] at hdeed
    obtain ⟨e, hact, rfl⟩ := Option.map_eq_some_iff.mp hdeed
    obtain ⟨hsilent, hafter⟩ := h.act hact
    have hnone : ¬ s.crew.recoveries.length < e.1.recoveries.length := by
      rw [hafter.closed.unrecovered]
      exact Nat.not_lt_zero _
    refine ⟨hsilent, ?_, ?_, ?_⟩
    · rwa [follow_crew]
    · rwa [follow_awaited]
    · rw [follow, if_neg hnone]
      rfl

theorem closed_run (h : s.crew.IsClosed) (hawaited : s.awaited = none) {g : Supervised}
    (hrun : s.run ds = some g) :
    Crew.Aftermath s.crew g.crew ∧ g.awaited = none ∧ g.recovered = s.recovered := by
  refine foldlM_preserves (P := fun t => Crew.Aftermath s.crew t.crew ∧ t.awaited = none ∧
    t.recovered = s.recovered) ?_ ⟨.of_eq h rfl rfl rfl, hawaited, rfl⟩ hrun
  rintro d - t t' ⟨hafter, hnone, hsame⟩ hdeed
  obtain ⟨e, he, rfl⟩ := Option.map_eq_some_iff.mp hdeed
  obtain ⟨-, hafter', hnone', hsame'⟩ := closed_deed hafter.closed hnone he
  exact ⟨hafter.trans hafter', hnone', hsame'.trans hsame⟩

end Supervised

/-! ## The call returns -/

namespace Crew

/-- The moves by which tasks end when they were told to. None of them is an answer of the
service. -/
def isEndingMove : Queue.Move → Bool
  | .readerStopped | .forwarderStopped | .recoveryBegan | .recoveryScheduled _
  | .recoveryStopped => true
  | _ => false

/-- How many moves a recovery that was told to end is away from its end. -/
def RecoveryTask.distance : RecoveryTask → Nat
  | started => 3
  | joining _ => 2
  | waiting | connecting _ => 1
  | broken => 0

/-- How many moves the tasks are away from their end. -/
def distance (c : Crew) : Nat :=
  c.readers.length + c.forwarder.toList.length +
    c.recoveries.foldr (fun r n => r.distance + n) 0

/-- A move brings the tasks nearer to their end, and starts nothing. -/
def Nears (c : Crew) (m : Queue.Move) (c' : Crew) : Prop :=
  c.move 0 m = some (c', []) ∧ isEndingMove m = true ∧
    c'.recoveries.length ≤ c.recoveries.length ∧ c'.started = c.started ∧ c'.distance < c.distance

variable {c : Crew}

theorem reader_nears (hending : c.isEnding = true) (hread : c.readers ≠ []) :
    ∃ c', c.Nears .readerStopped c' := by
  obtain ⟨r, rest, hreaders⟩ := List.exists_cons_of_ne_nil hread
  have hfirst : c.readers[0]? = some r := by simp [hreaders]
  have htold : (r.isStopping || c.isEnding) = true := by simp [hending]
  refine ⟨_, move_eq_some_iff.mpr (.readerStopped hfirst htold), rfl, Nat.le_refl _, rfl, ?_⟩
  simp [distance, hreaders]

theorem forwarder_nears (hending : c.isEnding = true) (hforwards : c.forwarder ≠ none) :
    ∃ c', c.Nears .forwarderStopped c' := by
  obtain ⟨t, hforwarder⟩ := Option.ne_none_iff_exists'.mp hforwards
  refine ⟨_, move_eq_some_iff.mpr (.forwarderStopped hforwarder hending), rfl, Nat.le_refl _, rfl,
    ?_⟩
  simp [distance, hforwarder]

/-- A recovery that is told to end between two of its waits does. -/
theorem free_recovery_nears (hending : c.isEnding = true) {r : RecoveryTask}
    (hr : c.recoveries = [r]) (hfree : r = .waiting ∨ ∃ a, r = .connecting a) :
    ∃ c', c.Nears .recoveryStopped c' := by
  have hfirst : c.recoveries[0]? = some r := by simp [hr]
  refine ⟨_, move_eq_some_iff.mpr (.recoveryStopped hending hfirst hfree), rfl, by simp [hr], rfl,
    ?_⟩
  rcases hfree with rfl | ⟨a, rfl⟩ <;> simp [distance, hr, RecoveryTask.distance]

/-- When there is no reader, the recovery can go on to its end. -/
theorem recovery_nears (hending : c.isEnding = true) (hunread : c.readers = [])
    {r : RecoveryTask} (hr : c.recoveries = [r]) (hunbroken : r ≠ .broken) :
    ∃ m c', c.Nears m c' := by
  have hfirst : c.recoveries[0]? = some r := by simp [hr]
  cases r with
  | started =>
    refine ⟨_, _, move_eq_some_iff.mpr (.recoveryBegan hfirst), rfl, by simp, rfl, ?_⟩
    simp [distance, hr, hunread, readersTold, RecoveryTask.distance]
  | joining reader =>
    have hover : reader.all c.isOver = true := by
      cases reader with
      | none => rfl
      | some n => simp [isOver, hunread]
    refine ⟨_, _, move_eq_some_iff.mpr (.scheduled 0 hfirst hover), rfl, by simp, rfl, ?_⟩
    simp only [distance, hr, List.set_cons_zero]
    split <;> simp [RecoveryTask.distance]
  | waiting => exact ⟨_, free_recovery_nears hending hr (.inl rfl)⟩
  | connecting a => exact ⟨_, free_recovery_nears hending hr (.inr ⟨a, rfl⟩)⟩
  | broken => exact absurd rfl hunbroken

/-- As long as a task has not ended, one of them can go on to its end. -/
theorem exists_nears (hsound : Sound c.cells) (hending : c.isEnding = true)
    (hbusy : ¬ (c.readers = [] ∧ c.forwarder = none ∧ ∀ r ∈ c.recoveries, r = .broken)) :
    ∃ m c', c.Nears m c' := by
  -- readers come first, because a recovery may wait for one of them
  by_cases hunread : c.readers = []
  · by_cases hunforwarded : c.forwarder = none
    · have hunbroken : ∃ r ∈ c.recoveries, r ≠ .broken := by
        simpa [hunread, hunforwarded] using hbusy
      obtain ⟨r, hmem, hunbroken⟩ := hunbroken
      have hsingle : c.recoveries.length ≤ 1 := hsound.phase.recoveries_le
      have hr : c.recoveries = [r] := by
        obtain ⟨x, hx⟩ := List.length_eq_one_iff.mp
          (Nat.le_antisymm hsingle (List.length_pos_of_mem hmem))
        rw [hx] at hmem ⊢
        rw [List.mem_singleton.mp hmem]
      exact recovery_nears hending hunread hr hunbroken
    · exact ⟨_, forwarder_nears hending hunforwarded⟩
  · exact ⟨_, reader_nears hending hunread⟩

end Crew

namespace Supervised

variable {s : Supervised} {d : Deed} {ds : List Deed}

/-- The deeds by which tasks end, and the call that closes the queue goes on. -/
def Deed.isEnding : Deed → Bool
  | .joined | .drained => true
  | .act (.move _ m) => Crew.isEndingMove m
  | _ => false

/-- How many deeds at most the call that closes the queue is away from its return. -/
def distance (s : Supervised) : Nat :=
  s.crew.distance + (2 * s.handles.length + (s.awaited.getD []).length)

/-- The call can return, or a deed brings it nearer to that. -/
theorem nears_return (h : Reachable s) (hawaited : s.awaited.isSome) :
    s.finishClose.isSome ∨ ∃ d e, d.isEnding = true ∧ s.deed d = some e ∧
      e.1.awaited.isSome ∧ e.1.distance < s.distance := by
  obtain ⟨hkept, hcrew⟩ := h.kept
  obtain ⟨hclosing, -⟩ := hkept.awaiting hawaited
  have hslot : s.crew.slot = none := hkept.closing hclosing
  by_cases hidle : s.crew.readers = [] ∧ s.crew.forwarder = none ∧
      ∀ r ∈ s.crew.recoveries, r = .broken
  · obtain ⟨hunread, hunforwarded, hbroken⟩ := hidle
    -- only handles of tasks that have ended are left
    have hfinished := finished_of_idle hunread hunforwarded hbroken
    obtain ⟨hs, hhs⟩ := Option.isSome_iff_exists.mp hawaited
    cases hs with
    | cons x rest =>
      have hdeed : s.deed .joined = some ({ s with
          awaited := some rest
          failures := s.failures ++ s.failuresOf x }, []) := by
        simp only [deed, joined, hhs, hfinished x, if_true]
        rfl
      refine .inr ⟨_, _, rfl, hdeed, rfl, ?_⟩
      simp [distance, hhs]
    | nil =>
      by_cases hhandles : s.handles = []
      · left
        rw [finishClose, if_pos ⟨hhs, hhandles, hslot⟩]
        dsimp only
        split <;> rfl
      · have hdeed : s.deed .drained = some (s.taken s.crew, []) := by
          simp only [deed, drained, hhs, hhandles, false_and, not_false_eq_true, and_self, if_true]
          rfl
        refine .inr ⟨_, _, rfl, hdeed, rfl, ?_⟩
        have hpos : 0 < s.handles.length := List.length_pos_iff.mpr hhandles
        show s.crew.distance + (2 * 0 + (s.handles ++ s.crew.slot.toList.map _).length) <
          s.crew.distance + (2 * s.handles.length + (s.awaited.getD []).length)
        rw [hslot, hhs]
        simp only [Option.toList_none, List.map_nil, List.append_nil]
        omega
  · have hending : s.crew.isEnding = true := by simp [Crew.isEnding, hclosing]
    obtain ⟨m, c, hmove, hendingMove, hrecoveries, hstarted, hnearer⟩ :=
      Crew.exists_nears hcrew.sound hending hidle
    have hact : s.crew.act (.move 0 m) = some (c, []) := hmove
    have hdeed : s.deed (.act (.move 0 m)) = some (s.follow 0 c, []) := by
      rw [deed_act (fun h => by cases h) (fun h => by cases h), hact]
      rfl
    -- a move that starts nothing leaves the handles where they are
    have hhandles : (s.follow 0 c).handles = s.handles := by
      rw [follow, if_neg (by omega)]
      show s.handles ++ (if s.crew.started < c.started then _ else []) = s.handles
      rw [if_neg (by omega), List.append_nil]
    refine .inr ⟨.act (.move 0 m), _, hendingMove, hdeed, ?_, ?_⟩
    · rwa [follow_awaited]
    · simp only [distance, follow_crew, follow_awaited, hhandles]
      omega

/-- However far the call that closes the queue is, it can return without the service. -/
theorem can_return (h : Reachable s) (hawaited : s.awaited.isSome) :
    ∃ ends s', (∀ d ∈ ends, d.isEnding = true) ∧ s.run ends = some s' ∧
      s'.finishClose.isSome := by
  -- by induction on the distance from the return
  induction hn : s.distance using Nat.strongRecOn generalizing s with
  | ind n ih =>
    rcases nears_return h hawaited with hdone | ⟨d, e, hending, hdeed, hawaited', hnearer⟩
    · exact ⟨[], s, fun d hd => absurd hd List.not_mem_nil, rfl, hdone⟩
    · obtain ⟨ends, s', hends, hrun, hdone⟩ :=
        ih _ (hn ▸ hnearer) (h.deed hdeed) hawaited' rfl
      refine ⟨d :: ends, s', ?_, ?_, hdone⟩
      · rintro d' (_ | ⟨_, hd'⟩)
        · exact hending
        · exact hends d' hd'
      · show (s.deed d).map Prod.fst >>= (fun s => s.run ends) = some s'
        rw [hdeed]
        exact hrun

/-! ## Closing -/

/-- The call that closes the queue has returned, with what became of the tasks. -/
theorem returns_eq (h : Reachable s) {result : Except Failure Unit} {f : Supervised}
    (hfinish : s.finishClose = some (result, f)) :
    Crew.Aftermath s.crew f.crew ∧ f.awaited = none ∧
      (result = .ok () ↔ .broken ∉ s.crew.recoveries) ∧
      (.broken ∉ s.crew.recoveries → s.crew.queue.finishClose = some (.ok (), f.crew.queue)) := by
  obtain ⟨hkept, hcrew⟩ := h.kept
  obtain ⟨hact, heq, -, hresult⟩ := hkept.finishClose_eq hfinish
  refine ⟨(Crew.aftermath_finishClose hcrew.sound hact).1, by rw [heq], hresult, fun hgood => ?_⟩
  generalize f.crew = c at hact
  cases Crew.finishClose_eq_some_iff.mp hact with
  | closed told unclosed unread unforwarded recovered =>
    -- what is left of the recoveries has given up, and nothing has
    have hrecoveries : s.crew.recoveries = [] := by
      rw [List.eq_nil_iff_forall_not_mem]
      intro r hr
      rw [of_decide_eq_true (List.all_eq_true.mp recovered r hr)] at hr
      exact hgood hr
    have hidle : (s.crew.queue.isClosing && decide (s.crew.queue.state ≠ .closed) &&
        s.crew.queue.isIdle) = true := by
      simp [Crew.queue, Queue.isIdle, Queue.isRecovering, told, unclosed, unread, unforwarded,
        hrecoveries]
    have hfailures : s.crew.queue.taskFailures = [] := by
      simp [Queue.taskFailures, Crew.queue, hrecoveries]
    rw [Queue.finishClose, if_pos hidle, if_pos hrecoveries]
    dsimp only
    rw [hfailures]
    simp [Crew.queue, Crew.closedAfter, Crew.enter, Crew.measure, Queue.enter, Queue.measure]

/-- A queue is told to close, for the first time, in whatever state it is. However the tasks
and other calls take turns from then on, and whatever the service does:

* as long as the call has not returned, it can, and needs no answer of the service for it;
* when it returns, every task has ended, no connection is held and the state is `closed`;
  no task has failed exactly if none of the recoveries has given up;
* ever after, the state stays so, no task is started, nothing is sent, publishing and
  subscribing fail because the queue is closed, closing it again succeeds at once, and
  acknowledging fails because there is no connection, or, when the owner has let go of the
  queue, because there is no queue. Callers receive the event that the output channel
  held, if it held one, and then learn that there are no more. -/
theorem nothing_after_close {s b d : Supervised} {ds : List Deed} (h : Reachable s)
    (hbegin : s.beginClose = some b) (hrun : b.run ds = some d) :
    (d.awaited.isSome → ∃ ends d', (∀ x ∈ ends, x.isEnding = true) ∧ d.run ends = some d' ∧
      d'.finishClose.isSome) ∧
    ∀ result f, d.finishClose = some (result, f) →
      (result = .ok () ↔ .broken ∉ d.crew.recoveries) ∧
      (.broken ∉ d.crew.recoveries → d.crew.queue.finishClose = some (.ok (), f.crew.queue)) ∧
      f.crew.IsClosed ∧ (∀ x, f.isFinished x = true) ∧
      ∀ later g, f.run later = some g →
        Crew.Aftermath f.crew g.crew ∧ g.recovered = f.recovered ∧
        (∀ x e, g.deed x = some e → e.2 = []) ∧
        (∀ change now, g.crew.queue.publish change now = .error .queueClosed) ∧
        g.crew.queue.subscribe = .error .queueClosed ∧
        (∀ w : ScriptedQueue, w.queue = g.crew.queue → w.close = (.ok (), w)) ∧
        (∀ id, g.crew.queue.acknowledge id =
          .error (if g.crew.isReleased then .queueClosed else .noConnection)) ∧
        (g.crew.output = none → g.crew.queue.receive = (.ended, g.crew.queue) ∧
          ∀ caller rest, g.crew.line = caller :: rest →
            g.crew.act .noMore = some ({ g.crew with line := rest }, [])) := by
  have hb : Reachable b := h.deed (d := .act .beginClose) (by rw [deed, hbegin]; rfl)
  have hd : Reachable d := hb.run hrun
  refine ⟨can_return hd, ?_⟩
  intro result f hfinish
  obtain ⟨hafter, hawaited, hresult, hqueue⟩ := returns_eq hd hfinish
  refine ⟨hresult, hqueue, hafter.closed, finished_of_closed hafter.closed, ?_⟩
  intro later g hlater
  obtain ⟨hlast, hawaited', hrecovered⟩ := closed_run hafter.closed hawaited hlater
  have hclosed : g.crew.IsClosed := hlast.closed
  refine ⟨hlast, hrecovered, fun x e he => (closed_deed hclosed hawaited' he).1, hclosed.publish_eq,
    hclosed.subscribe_eq, fun w => hclosed.close_eq, hclosed.acknowledge_eq, fun houtput => ?_⟩
  exact ⟨hclosed.receive_eq houtput, fun caller rest => hclosed.noMore_eq houtput⟩

/-- The state after deeds with a queue that was just created. -/
def after (settings : QueueSettings) (ds : List Deed) : Option Supervised :=
  match Queue.create settings with
  | .ok q => (fresh q).run ds
  | .error _ => none

theorem reachable_of_after {settings : QueueSettings} (h : after settings ds = some s) :
    Reachable s := by
  unfold after at h
  split at h
  case h_1 q hcreate => exact (Reachable.fresh hcreate).run h
  case h_2 => cases h

/-- Events are everywhere on their way when a publisher loses the connection, and the
recovery waits for the reader. -/
def fullAndLost : List Deed :=
  let acts : List Act := Crew.connecting ++ Crew.claiming "1-0" "oak" ++
    [.move 0 .handedOn, .move 0 .forwarderTook, .move 0 .forwarderPut] ++
    Crew.claiming "2-0" "elm" ++ [.move 0 .handedOn, .move 0 .forwarderTook] ++
    Crew.claiming "3-0" "ash" ++ [.move 0 .handedOn] ++ Crew.claiming "4-0" "yew" ++
    [.publish (.delete "fir") .epoch, .answered 0 (.lost "connection closed"),
      .move 0 .recoveryBegan]
  acts.map .act

/-- The tasks end, the forwarder first, and are waited for. -/
def allEnd : List Deed := [
  .act (.move 0 .forwarderStopped), .joined, .act (.move 0 .readerStopped),
  .act (.move 0 (.recoveryScheduled 0)), .act (.move 0 .recoveryStopped), .joined]

/-- Two callers wait for events of a queue that was closed. -/
def twoWait : List Deed := [.act (.wait 7), .act (.wait 8), .act .receive, .act .noMore]

/-- The queue is closed, one event is received, and then there are no more. -/
theorem closed_while_full :
    ∃ s b d f g, after { nodeId := "node" } fullAndLost = some s ∧
      s.beginClose = some b ∧ b.run allEnd = some d ∧ d.finishClose = some (.ok (), f) ∧
      f.crew.IsClosed ∧ f.run twoWait = some g ∧
      g.crew.received.map (·.item.event.id.text) = ["1-0"] ∧
      g.crew.queue.receive = (.ended, g.crew.queue) ∧
      ∀ id, g.crew.queue.acknowledge id = .error .noConnection := by
  have hall : ((after { nodeId := "node" } fullAndLost).bind fun s =>
      s.beginClose.bind fun b => (b.run allEnd).bind fun d => d.finishClose.bind fun x =>
        (x.2.run twoWait).map fun g => (d.crew.recoveries, g.crew.output, g.crew.isReleased,
          g.crew.received.map (·.item.event.id.text))) = some ([], none, false, ["1-0"]) := by
    decide +kernel
  obtain ⟨s, hs, hall⟩ := Option.bind_eq_some_iff.mp hall
  obtain ⟨b, hb, hall⟩ := Option.bind_eq_some_iff.mp hall
  obtain ⟨d, hd, hall⟩ := Option.bind_eq_some_iff.mp hall
  obtain ⟨⟨result, f⟩, hf, hall⟩ := Option.bind_eq_some_iff.mp hall
  obtain ⟨g, hg, hparts⟩ := Option.map_eq_some_iff.mp hall
  simp only [Prod.mk.injEq] at hparts
  obtain ⟨hrecoveries, houtput, howned, hreceived⟩ := hparts
  obtain ⟨-, hreturns⟩ := nothing_after_close (reachable_of_after hs) hb hd
  obtain ⟨hresult, -, hclosed, -, hlater⟩ := hreturns result f hf
  have hok : result = .ok () := hresult.mpr (by rw [hrecoveries]; exact List.not_mem_nil)
  rw [hok] at hf
  obtain ⟨-, -, -, -, -, -, hacknowledge, hended⟩ := hlater twoWait g hg
  refine ⟨s, b, d, f, g, hs, hb, hd, hf, hclosed, hg, hreceived, (hended houtput).1, ?_⟩
  intro id
  rw [hacknowledge, howned]
  rfl

end Supervised
end CatalogReplica
