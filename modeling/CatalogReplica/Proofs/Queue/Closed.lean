/-
# CatalogReplica.Proofs.Queue.Closed -- a crew that was closed

A crew that was closed has no task and no connection, and nobody can give it one: it makes
no move, and every call that would have to send a command fails. All that callers can still
get of it is the event that the output channel holds, if it holds one.
-/
import CatalogReplica.Proofs.Queue.Turns
import CatalogReplica.Queue.Scripted

namespace CatalogReplica.Crew

variable {c c' : Crew} {e : Effect}

/-- A crew that was closed. -/
structure IsClosed (c : Crew) : Prop where
  state : c.state = .closed
  unlinked : c.isConnected = false
  created : c.firstAttempt = none
  unrecovered : c.recoveries = []
  unread : c.readers = []
  unforwarded : c.forwarder = none
  closing : c.isClosing = true

/-- What changes no more, once a crew was closed, but the events that callers receive. -/
structure Aftermath (c c' : Crew) : Prop where
  closed : c'.IsClosed
  started : c'.started = c.started
  /-- The events received since, and the one in the output channel, are the one that the
  output channel held. -/
  received : ∃ last, c'.received = c.received ++ last ∧
    last.map Reception.item ++ c'.output.toList = c.output.toList

theorem Aftermath.of_eq (h : c'.IsClosed) (hstarted : c'.started = c.started)
    (hreceived : c'.received = c.received) (houtput : c'.output = c.output) : Aftermath c c' :=
  ⟨h, hstarted, [], by simp [hreceived], by simp [houtput]⟩

theorem Aftermath.trans {c'' : Crew} (h : Aftermath c c') (h' : Aftermath c' c'') :
    Aftermath c c'' := by
  obtain ⟨last, hreceived, hlast⟩ := h.received
  obtain ⟨more, hreceived', hmore⟩ := h'.received
  refine ⟨h'.closed, h'.started.trans h.started, last ++ more, ?_, ?_⟩
  · rw [hreceived', hreceived, List.append_assoc]
  · rw [List.map_append, List.append_assoc, hmore, hlast]

/-- Closing ends with a crew that is closed. The output channel stays as it is. -/
theorem aftermath_finishClose (hsound : Sound c.cells) (hact : c.finishClose = some e) :
    Aftermath c e.1 ∧ e.1.slot = c.slot := by
  cases finishClose_eq_some_iff.mp hact with
  | closed told unclosed unread unforwarded recovered =>
    have hcreated : c.firstAttempt = none :=
      hsound.phase.created_of_busy (.inr (.inr (.inr told)))
    exact ⟨.of_eq ⟨rfl, rfl, hcreated, rfl, unread, unforwarded, told⟩ rfl rfl rfl, rfl⟩

namespace IsClosed

variable (h : c.IsClosed)

include h

/-! ## Tasks -/

theorem no_attempt (who : Nat) : c.attempt? who = none := by
  simp [attempt?, h.created, h.unrecovered]

/-- There is no task that could make a move. -/
theorem not_moves {who : Nat} {m : Queue.Move} : ¬ c.Moves who m e := by
  intro moves
  cases moves with
  | openedOnly attempt | openedFirst attempt | openedSecond attempt | openFailed _ attempt
  | created attempt | notCreated attempt | positioned attempt | notPositioned attempt
  | timedOut attempt => simp [h.no_attempt] at attempt
  | asked reader | claimFailed reader | claimed reader | claimedNothing reader | readFailed reader
  | read reader | readNothing reader | handedOn reader | readerStopped reader =>
    simp [h.unread] at reader
  | took forwarder | put forwarder | forwarderStopped forwarder =>
    cases h.unforwarded.symm.trans forwarder
  | recoveryBegan recovery | scheduled _ recovery | attemptBegan recovery
  | recoveryStopped _ recovery => simp [h.unrecovered] at recovery

/-- A loss that is reported now starts nothing. -/
theorem lose (f : Failure) : c.lose f = c := by
  simp [Crew.lose, h.closing]

/-! ## Calls -/

theorem publish_eq (change : Change) (now : Timestamp) :
    c.queue.publish change now = .error .queueClosed :=
  if_pos h.closing

theorem subscribe_eq : c.queue.subscribe = .error .queueClosed := if_pos h.closing

/-- Who closes the queue once more has nothing to wait for. -/
theorem close_eq {w : ScriptedQueue} (hw : w.queue = c.queue) : w.close = (.ok (), w) := by
  have hnone : w.queue.beginClose = none := by
    rw [hw]
    exact if_pos h.closing
  simp only [ScriptedQueue.close, hnone]

/-- No event can be acknowledged any more. -/
theorem acknowledge_eq (id : EntryId) :
    c.queue.acknowledge id = .error (if c.isReleased then .queueClosed else .noConnection) := by
  have hgone : c.queue.isGone = c.isReleased := by
    simp [Queue.isGone, Queue.isRecovering, queue, h.unread, h.unrecovered]
  have hunlinked : c.queue.isConnected = false := h.unlinked
  simp only [Queue.acknowledge, hgone, hunlinked]
  split <;> rfl

theorem isEnded : c.queue.isEnded = true := by
  simp [Queue.isEnded, queue, h.unforwarded, h.state]

/-- When the output channel is empty, no event comes any more. -/
theorem receive_eq (houtput : c.output = none) : c.queue.receive = (.ended, c.queue) := by
  have hnone : c.queue.output = none := by
    show c.output.map _ = none
    rw [houtput]
    rfl
  simp only [Queue.receive, hnone, h.isEnded, if_true]

/-- Every caller that waits learns so, one after another. -/
theorem noMore_eq (houtput : c.output = none) {caller : Nat} {rest : List Nat}
    (hline : c.line = caller :: rest) : c.act .noMore = some ({ c with line := rest }, []) := by
  simp only [Crew.act, noMore, hline, houtput, h.isEnded, if_true]

/-! ## All acts -/

/-- A call learns the outcome of what it sent before the crew was closed: the counters of the
outcome are all that changes. -/
theorem aftermath_without (call : Nat) (m : Measurement) :
    Aftermath c ((c.without call).measure m) :=
  .of_eq { h with } rfl rfl rfl

/-- A loss that such a call reports is one of a queue that is closed. -/
theorem aftermath_lose (call : Nat) (m : Measurement) (f : Failure) :
    Aftermath c (((c.without call).measure m).lose f) := by
  rw [(h.aftermath_without call m).closed.lose]
  exact h.aftermath_without call m

/-- Whatever is done with a crew that was closed, it sends nothing and stays closed. -/
theorem act {a : Act} (hact : c.act a = some e) : e.2 = [] ∧ Aftermath c e.1 := by
  cases act_eq_some_iff.mp hact with
  | move moves => exact absurd moves h.not_moves
  | publishing allowed _ => cases (h.publish_eq _ _).symm.trans allowed
  | acknowledging linked _ => cases h.unlinked.symm.trans linked
  | @published call | @notPublished call | @acknowledged call | @notAcknowledged call =>
    exact ⟨rfl, h.aftermath_without call _⟩
  | @publishLost call _ _ _ f | @ackLost call _ _ _ _ f =>
    exact ⟨rfl, h.aftermath_lose call _ f⟩
  | waits _ | abandoned _ | sawEnd _ _ _ | released _ => exact ⟨rfl, .of_eq { h with } rfl rfl rfl⟩
  | @received caller _ n _ output =>
    refine ⟨rfl, { h with }, rfl, [⟨caller, n⟩], rfl, ?_⟩
    rw [output]
    rfl
  | closing _ untold => cases h.closing.symm.trans untold
  | closed _ unclosed _ _ _ => exact absurd h.state unclosed

end IsClosed
end CatalogReplica.Crew
