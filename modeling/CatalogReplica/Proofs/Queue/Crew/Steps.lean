/-
# CatalogReplica.Proofs.Queue.Crew.Steps -- what each step of a crew does, case by case

`Crew.act` is written like the moves and calls of a queue, and it is taken apart like them:
`Moves c who m e` has a case for each thing that the move of a task can do, `Acts c a e` one
for each thing that an act can do, and `act_eq_some_iff` says that these are all. The cases
of the moves have the names of those of a queue.
-/
import CatalogReplica.Proofs.Queue.Crew

namespace CatalogReplica.Crew

variable {c : Crew} {who : Nat} {e : Effect} {o : Outcome}

/-- In `c` the task `who` can make the move `m`, and it comes to `e`. -/
inductive Moves (c : Crew) (who : Nat) : Queue.Move → Effect → Prop where
  | openedOnly (attempt : c.attempt? who = some .opening)
      (publishes : c.settings.writeOnly = true) :
      Moves c who .opened (c.attemptSucceeded who, [])
  | openedFirst (attempt : c.attempt? who = some .opening)
      (reads : c.settings.writeOnly = false) :
      Moves c who .opened (c.goOn who .openingReader, [])
  | openedSecond (attempt : c.attempt? who = some .openingReader) :
      Moves c who .opened (c.goOn who (.creating c.resume), [c.consumer.createCommand])
  | openFailed (reason : String)
      (attempt : c.attempt? who = some .opening ∨ c.attempt? who = some .openingReader) :
      Moves c who (.openFailed reason)
        (c.attemptFailed who (.service "CONNECT" (.transport reason)), [])
  | created {o : Outcome} {resume : Option EntryId}
      (attempt : c.attempt? who = some (.creating resume))
      (answer : Consumer.created o = .ok ()) :
      Moves c who (.prepared o)
        (c.goOn who (.positioning resume), [c.consumer.positionCommand resume])
  | notCreated {o : Outcome} {resume : Option EntryId} {f : Failure}
      (attempt : c.attempt? who = some (.creating resume))
      (answer : Consumer.created o = .error f) :
      Moves c who (.prepared o) (c.attemptFailed who f, [])
  | positioned {o : Outcome} {resume : Option EntryId}
      (attempt : c.attempt? who = some (.positioning resume))
      (answer : Consumer.positioned o = .ok ()) :
      Moves c who (.prepared o) (c.attemptSucceeded who, [])
  | notPositioned {o : Outcome} {resume : Option EntryId} {f : Failure}
      (attempt : c.attempt? who = some (.positioning resume))
      (answer : Consumer.positioned o = .error f) :
      Moves c who (.prepared o) (c.attemptFailed who f, [])
  | timedOut {a : Attempt} (attempt : c.attempt? who = some a) :
      Moves c who .attemptTimedOut
        (c.attemptFailed who (.service "CONNECT" (.timedOut c.attemptLimit)), [])
  | asked {r : ReadingTask} (reader : c.readers[who]? = some r) (stage : r.stage = .between) :
      Moves c who .readerAsked (c.readerAt who r .claiming, [c.consumer.claimCommand])
  | claimFailed {o : Outcome} {r : ReadingTask} {f : Failure}
      (reader : c.readers[who]? = some r) (stage : r.stage = .claiming)
      (answer : c.consumer.claimed o = .error f) :
      Moves c who (.claimAnswered o) (c.readerFailed who f, [])
  | claimed {o : Outcome} {r : ReadingTask} {x : Entry} {k : Consumer}
      (reader : c.readers[who]? = some r) (stage : r.stage = .claiming)
      (answer : c.consumer.claimed o = .ok (some x, k)) :
      Moves c who (.claimAnswered o) ({ c with consumer := k }.entryCame who r x, [])
  | claimedNothing {o : Outcome} {r : ReadingTask} {k : Consumer}
      (reader : c.readers[who]? = some r) (stage : r.stage = .claiming)
      (answer : c.consumer.claimed o = .ok (none, k)) :
      Moves c who (.claimAnswered o)
        ({ c with consumer := k }.readerAt who r .reading, [k.readCommand])
  | readFailed {o : Outcome} {r : ReadingTask} {f : Failure}
      (reader : c.readers[who]? = some r) (stage : r.stage = .reading)
      (answer : Consumer.read o = .error f) :
      Moves c who (.readAnswered o) (c.readerFailed who f, [])
  | read {o : Outcome} {r : ReadingTask} {x : Entry} (reader : c.readers[who]? = some r)
      (stage : r.stage = .reading) (answer : Consumer.read o = .ok (some x)) :
      Moves c who (.readAnswered o) (c.entryCame who r x, [])
  | readNothing {o : Outcome} {r : ReadingTask} (reader : c.readers[who]? = some r)
      (stage : r.stage = .reading) (answer : Consumer.read o = .ok none) :
      Moves c who (.readAnswered o) (c.readerAt who r .between, [])
  | handedOn {k : Nat} {n : Numbered} {stopping : Bool} {fw : ForwardingTask}
      (reader : c.readers[who]? = some ⟨k, .offering n, stopping⟩) (input : c.input = none)
      (forwarder : c.forwarder = some fw) :
      Moves c who .handedOn ({ c with
        readers := c.readers.set who ⟨k, .between, stopping⟩
        input := some n }, [])
  | readerStopped {r : ReadingTask} (reader : c.readers[who]? = some r)
      (told : (r.isStopping || c.isEnding) = true) :
      Moves c who .readerStopped ({ c with
        readers := c.readers.eraseIdx who
        stopped := c.stopped ++ [r.number] }, [])
  | took {n : Numbered} (forwarder : c.forwarder = some .waiting) (input : c.input = some n) :
      Moves c who .forwarderTook ({ c with forwarder := some (.holding n), input := none }, [])
  | put {n : Numbered} (forwarder : c.forwarder = some (.holding n)) (output : c.output = none) :
      Moves c who .forwarderPut ({ c with forwarder := some .waiting, output := some n }, [])
  | forwarderStopped {fw : ForwardingTask} (forwarder : c.forwarder = some fw)
      (told : c.isEnding = true) :
      Moves c who .forwarderStopped ({ c with forwarder := none, input := none }, [])
  | recoveryBegan (recovery : c.recoveries[who]? = some .started) :
      Moves c who .recoveryBegan ({ c with
        isConnected := false
        readers := c.readersTold
        recoveries := c.recoveries.set who (.joining c.slot)
        slot := none }, [])
  | scheduled (uptime : Nat) {reader : Option Nat}
      (recovery : c.recoveries[who]? = some (.joining reader))
      (ended : reader.all c.isOver = true) :
      Moves c who (.recoveryScheduled uptime) ({ c with
        recoveries := c.recoveries.set who
          (if Queue.isSchedulable c.settings uptime then .waiting else .broken) }, [])
  | attemptBegan (recovery : c.recoveries[who]? = some .waiting) :
      Moves c who .attemptBegan
        ({ c with recoveries := c.recoveries.set who (.connecting .opening) }, [])
  | recoveryStopped {t : RecoveryTask} (told : c.isEnding = true)
      (recovery : c.recoveries[who]? = some t)
      (free : t = .waiting ∨ ∃ a, t = .connecting a) :
      Moves c who .recoveryStopped ({ c with recoveries := c.recoveries.eraseIdx who }, [])

/-! ## Connecting -/

theorem opened_eq_some_iff : c.opened who = some e ↔ c.Moves who .opened e := by
  constructor
  · intro h
    unfold opened at h
    split at h
    · split at h <;> cases h
      · exact .openedOnly ‹_› ‹_›
      · exact .openedFirst ‹_› (Bool.eq_false_iff.mpr ‹_›)
    · cases h
      exact .openedSecond ‹_›
    · cases h
  · intro h
    cases h with
    | openedOnly attempt publishes => simp only [opened, attempt, publishes, if_true]
    | openedFirst attempt reads => simp only [opened, attempt, reads, Bool.false_eq_true, if_false]
    | openedSecond attempt => simp only [opened, attempt]

theorem openFailed_eq_some_iff {reason : String} :
    c.openFailed who reason = some e ↔ c.Moves who (.openFailed reason) e := by
  constructor
  · intro h
    unfold openFailed at h
    split at h <;> cases h
    · exact .openFailed reason (.inl ‹_›)
    · exact .openFailed reason (.inr ‹_›)
  · intro h
    cases h with
    | openFailed _ attempt =>
      rcases attempt with attempt | attempt <;> simp only [openFailed, attempt]

theorem prepared_eq_some_iff : c.prepared who o = some e ↔ c.Moves who (.prepared o) e := by
  constructor
  · intro h
    unfold prepared at h
    split at h
    · split at h <;> cases h
      · exact .created ‹_› ‹_›
      · exact .notCreated ‹_› ‹_›
    · split at h <;> cases h
      · exact .positioned ‹_› ‹_›
      · exact .notPositioned ‹_› ‹_›
    · cases h
  · intro h
    cases h with
    | created attempt answer | notCreated attempt answer | positioned attempt answer
    | notPositioned attempt answer => simp only [prepared, attempt, answer]

theorem attemptTimedOut_eq_some_iff :
    c.attemptTimedOut who = some e ↔ c.Moves who .attemptTimedOut e := by
  constructor
  · intro h
    obtain ⟨a, attempt, rfl⟩ := Option.map_eq_some_iff.mp h
    exact .timedOut attempt
  · intro h
    cases h with
    | timedOut attempt => simp only [attemptTimedOut, attempt, Option.map_some]

/-! ## Reading -/

theorem readerAsked_eq_some_iff : c.readerAsked who = some e ↔ c.Moves who .readerAsked e := by
  constructor
  · intro h
    unfold readerAsked at h
    split at h
    · split at h <;> cases h
      exact .asked ‹_› ‹_›
    · cases h
  · intro h
    cases h with
    | asked reader stage => simp only [readerAsked, reader, stage, if_true]

theorem claimAnswered_eq_some_iff :
    c.claimAnswered who o = some e ↔ c.Moves who (.claimAnswered o) e := by
  constructor
  · intro h
    unfold claimAnswered at h
    split at h
    · split at h
      · split at h <;> cases h
        · exact .claimFailed ‹_› ‹_› ‹_›
        · exact .claimed ‹_› ‹_› ‹_›
        · exact .claimedNothing ‹_› ‹_› ‹_›
      · cases h
    · cases h
  · intro h
    cases h with
    | claimFailed reader stage answer | claimed reader stage answer
    | claimedNothing reader stage answer =>
      simp only [claimAnswered, reader, stage, answer, if_true]

theorem readAnswered_eq_some_iff :
    c.readAnswered who o = some e ↔ c.Moves who (.readAnswered o) e := by
  constructor
  · intro h
    unfold readAnswered at h
    split at h
    · split at h
      · split at h <;> cases h
        · exact .readFailed ‹_› ‹_› ‹_›
        · exact .read ‹_› ‹_› ‹_›
        · exact .readNothing ‹_› ‹_› ‹_›
      · cases h
    · cases h
  · intro h
    cases h with
    | readFailed reader stage answer | read reader stage answer | readNothing reader stage answer =>
      simp only [readAnswered, reader, stage, answer, if_true]

theorem handedOn_eq_some_iff : c.handedOn who = some e ↔ c.Moves who .handedOn e := by
  constructor
  · intro h
    unfold handedOn at h
    split at h <;> cases h
    exact .handedOn ‹_› ‹_› ‹_›
  · intro h
    cases h with
    | handedOn reader input forwarder => simp only [handedOn, reader, input, forwarder]

theorem readerStopped_eq_some_iff :
    c.readerStopped who = some e ↔ c.Moves who .readerStopped e := by
  constructor
  · intro h
    unfold readerStopped at h
    split at h
    · split at h <;> cases h
      exact .readerStopped ‹_› ‹_›
    · cases h
  · intro h
    cases h with
    | readerStopped reader told => simp only [readerStopped, reader, told, if_true]

/-! ## Forwarding -/

theorem forwarderTook_eq_some_iff : c.forwarderTook = some e ↔ c.Moves who .forwarderTook e := by
  constructor
  · intro h
    unfold forwarderTook at h
    split at h <;> cases h
    exact .took ‹_› ‹_›
  · intro h
    cases h with
    | took forwarder input => simp only [forwarderTook, forwarder, input]

theorem forwarderPut_eq_some_iff : c.forwarderPut = some e ↔ c.Moves who .forwarderPut e := by
  constructor
  · intro h
    unfold forwarderPut at h
    split at h <;> cases h
    exact .put ‹_› ‹_›
  · intro h
    cases h with
    | put forwarder output => simp only [forwarderPut, forwarder, output]

theorem forwarderStopped_eq_some_iff :
    c.forwarderStopped = some e ↔ c.Moves who .forwarderStopped e := by
  constructor
  · intro h
    unfold forwarderStopped at h
    split at h
    · split at h <;> cases h
      exact .forwarderStopped ‹_› ‹_›
    · cases h
  · intro h
    cases h with
    | forwarderStopped forwarder told => simp only [forwarderStopped, forwarder, told, if_true]

/-! ## Recovering -/

theorem recoveryBegan_eq_some_iff :
    c.recoveryBegan who = some e ↔ c.Moves who .recoveryBegan e := by
  constructor
  · intro h
    unfold recoveryBegan at h
    split at h <;> cases h
    exact .recoveryBegan ‹_›
  · intro h
    cases h with
    | recoveryBegan recovery => exact if_pos recovery

theorem recoveryScheduled_eq_some_iff {uptime : Nat} :
    c.recoveryScheduled who uptime = some e ↔ c.Moves who (.recoveryScheduled uptime) e := by
  constructor
  · intro h
    unfold recoveryScheduled at h
    split at h
    · split at h <;> cases h
      exact .scheduled uptime ‹_› ‹_›
    · cases h
  · intro h
    cases h with
    | scheduled _ recovery ended => simp only [recoveryScheduled, recovery, ended, if_true]

theorem attemptBegan_eq_some_iff : c.attemptBegan who = some e ↔ c.Moves who .attemptBegan e := by
  constructor
  · intro h
    unfold attemptBegan at h
    split at h <;> cases h
    exact .attemptBegan ‹_›
  · intro h
    cases h with
    | attemptBegan recovery => exact if_pos recovery

theorem recoveryStopped_eq_some_iff :
    c.recoveryStopped who = some e ↔ c.Moves who .recoveryStopped e := by
  constructor
  · intro h
    unfold recoveryStopped at h
    split at h
    · split at h <;> cases h
      · exact .recoveryStopped ‹_› ‹_› (.inl rfl)
      · exact .recoveryStopped ‹_› ‹_› (.inr ⟨_, rfl⟩)
    · cases h
  · intro h
    cases h with
    | recoveryStopped told recovery free =>
      rcases free with rfl | ⟨a, rfl⟩ <;> simp only [recoveryStopped, told, recovery, if_true]

theorem move_eq_some_iff {m : Queue.Move} : c.move who m = some e ↔ c.Moves who m e := by
  cases m with
  | opened => exact opened_eq_some_iff
  | openFailed reason => exact openFailed_eq_some_iff
  | prepared o => exact prepared_eq_some_iff
  | attemptTimedOut => exact attemptTimedOut_eq_some_iff
  | readerAsked => exact readerAsked_eq_some_iff
  | claimAnswered o => exact claimAnswered_eq_some_iff
  | readAnswered o => exact readAnswered_eq_some_iff
  | handedOn => exact handedOn_eq_some_iff
  | readerStopped => exact readerStopped_eq_some_iff
  | forwarderTook => exact forwarderTook_eq_some_iff
  | forwarderPut => exact forwarderPut_eq_some_iff
  | forwarderStopped => exact forwarderStopped_eq_some_iff
  | recoveryBegan => exact recoveryBegan_eq_some_iff
  | recoveryScheduled uptime => exact recoveryScheduled_eq_some_iff
  | attemptBegan => exact attemptBegan_eq_some_iff
  | recoveryStopped => exact recoveryStopped_eq_some_iff

/-! ## Acts -/

/-- The crew once the command of a call has had its outcome. -/
def without (c : Crew) (call : Nat) : Crew := { c with calls := c.calls.eraseIdx call }

/-- The crew once all tasks have ended, after these notices. -/
def closedAfter (c : Crew) (notices : List Notice) : Crew :=
  { c with notices := notices, isConnected := false, recoveries := [] }.enter .closed

/-- In `c` the act `a` is possible, and it comes to `e`. -/
inductive Acts (c : Crew) : Act → Effect → Prop where
  | move {who : Nat} {m : Queue.Move} {e : Effect} (moves : c.Moves who m e) :
      Acts c (.move who m) e
  | publishing {change : Change} {now : Timestamp} {command : Command}
      (allowed : c.queue.publish change now = .ok command) (owned : c.isOwned = true) :
      Acts c (.publish change now) (c.send command)
  | acknowledging {id : EntryId} (linked : c.isConnected = true) (there : c.isGone = false) :
      Acts c (.acknowledge id) (c.send (c.consumer.ackCommand id))
  | published {call : Nat} {o : Outcome} {key payload text : String}
      (sent : c.calls[call]? = some (.append key payload))
      (answer : o.value "XADD" Reply.textLike? = .ok text) :
      Acts c (.answered call o)
        ((c.without call).measure (.published c.settings.subject true), [])
  | notPublished {call : Nat} {o : Outcome} {key payload : String} {f : Failure}
      (sent : c.calls[call]? = some (.append key payload))
      (answer : o.value "XADD" Reply.textLike? = .error f) (linked : f.isConnectionLost = false) :
      Acts c (.answered call o)
        ((c.without call).measure (.published c.settings.subject false), [])
  | publishLost {call : Nat} {o : Outcome} {key payload : String} {f : Failure}
      (sent : c.calls[call]? = some (.append key payload))
      (answer : o.value "XADD" Reply.textLike? = .error f) (lost : f.isConnectionLost = true) :
      Acts c (.answered call o)
        (((c.without call).measure (.published c.settings.subject false)).lose f, [])
  | acknowledged {call : Nat} {o : Outcome} {key node : String} {id : EntryId}
      (sent : c.calls[call]? = some (.acknowledge key node id))
      (answer : Consumer.acknowledged o = .ok ()) :
      Acts c (.answered call o)
        ((c.without call).measure (.acknowledged c.consumer.streamKey true), [])
  | notAcknowledged {call : Nat} {o : Outcome} {key node : String} {id : EntryId} {f : Failure}
      (sent : c.calls[call]? = some (.acknowledge key node id))
      (answer : Consumer.acknowledged o = .error f) (linked : f.isConnectionLost = false) :
      Acts c (.answered call o)
        ((c.without call).measure (.acknowledged c.consumer.streamKey false), [])
  | ackLost {call : Nat} {o : Outcome} {key node : String} {id : EntryId} {f : Failure}
      (sent : c.calls[call]? = some (.acknowledge key node id))
      (answer : Consumer.acknowledged o = .error f) (lost : f.isConnectionLost = true) :
      Acts c (.answered call o)
        (((c.without call).measure (.acknowledged c.consumer.streamKey false)).lose f, [])
  | waits {caller : Nat} (opened : c.firstAttempt = none) :
      Acts c (.wait caller) ({ c with line := c.line ++ [caller] }, [])
  | abandoned {place : Nat} (inLine : place < c.line.length) :
      Acts c (.abandon place) ({ c with line := c.line.eraseIdx place }, [])
  | received {caller : Nat} {rest : List Nat} {n : Numbered} (line : c.line = caller :: rest)
      (output : c.output = some n) :
      Acts c .receive ({ c with
        line := rest
        output := none
        received := c.received ++ [Reception.mk caller n] }, [])
  | sawEnd {caller : Nat} {rest : List Nat} (line : c.line = caller :: rest)
      (output : c.output = none) (ended : c.queue.isEnded = true) :
      Acts c .noMore ({ c with line := rest }, [])
  | closing (owned : c.isOwned = true) (untold : c.isClosing = false) :
      Acts c .beginClose ({ c with isClosing := true, slot := none }, [])
  | closed (told : c.isClosing = true) (unclosed : c.state ≠ .closed) (unread : c.readers = [])
      (unforwarded : c.forwarder = none) (recovered : c.isRecovered = true) :
      Acts c .finishClose (c.closedAfter (if c.recoveries = [] then c.notices
        else c.notices ++ (c.recoveries.map fun _ => .taskFailedAtClose) ++ [.closedWithErrors]),
        [])
  | released (owned : c.isOwned = true) : Acts c .release ({ c with isReleased := true }, [])

theorem publish_eq_some_iff {change : Change} {now : Timestamp} :
    c.publish change now = some e ↔ c.Acts (.publish change now) e := by
  constructor
  · intro h
    unfold publish at h
    split at h
    · split at h <;> cases h
      exact .publishing ‹_› ‹_›
    · cases h
  · intro h
    cases h with
    | publishing allowed owned => simp only [publish, allowed, owned, if_true]

theorem acknowledge_eq_some_iff {id : EntryId} :
    c.acknowledge id = some e ↔ c.Acts (.acknowledge id) e := by
  constructor
  · intro h
    unfold acknowledge at h
    split at h <;> cases h
    rename_i linked
    simp only [Bool.and_eq_true, Bool.not_eq_true'] at linked
    exact .acknowledging linked.1 linked.2
  · intro h
    cases h with
    | acknowledging linked there => simp [acknowledge, linked, there]

theorem answered_eq_some_iff {call : Nat} :
    c.answered call o = some e ↔ c.Acts (.answered call o) e := by
  constructor
  · intro h
    unfold answered at h
    dsimp only at h
    split at h <;> cases h
    · unfold publishAnswered
      split
      · exact .published ‹_› ‹_›
      · dsimp only
        split
        · exact .publishLost ‹_› ‹_› ‹_›
        · exact .notPublished ‹_› ‹_› (Bool.eq_false_iff.mpr ‹_›)
    · unfold ackAnswered
      dsimp only
      split
      · rename_i answer
        rw [answer]
        exact .acknowledged ‹_› answer
      · rename_i answer
        rw [answer]
        split
        · exact .ackLost ‹_› answer ‹_›
        · exact .notAcknowledged ‹_› answer (Bool.eq_false_iff.mpr ‹_›)
  · intro h
    cases h with
    | published sent answer => simp [answered, sent, publishAnswered, answer, without]
    | notPublished sent answer held | publishLost sent answer held =>
      simp [answered, sent, publishAnswered, answer, held, without]
    | acknowledged sent answer =>
      simp [answered, sent, ackAnswered, answer, without, Except.isOk, Except.toBool]
    | notAcknowledged sent answer held | ackLost sent answer held =>
      simp [answered, sent, ackAnswered, answer, held, without, Except.isOk, Except.toBool]

theorem wait_eq_some_iff {caller : Nat} : c.wait caller = some e ↔ c.Acts (.wait caller) e := by
  constructor
  · intro h
    unfold wait at h
    split at h <;> cases h
    exact .waits (Option.isNone_iff_eq_none.mp ‹_›)
  · intro h
    cases h with
    | waits opened => simp only [wait, opened, Option.isNone_none, if_true]

theorem abandon_eq_some_iff {place : Nat} :
    c.abandon place = some e ↔ c.Acts (.abandon place) e := by
  constructor
  · intro h
    unfold abandon at h
    split at h <;> cases h
    exact .abandoned ‹_›
  · intro h
    cases h with
    | abandoned inLine => exact if_pos inLine

theorem receive_eq_some_iff : c.receive = some e ↔ c.Acts .receive e := by
  constructor
  · intro h
    unfold receive at h
    split at h <;> cases h
    exact .received ‹_› ‹_›
  · intro h
    cases h with
    | received line output => simp only [receive, line, output]

theorem noMore_eq_some_iff : c.noMore = some e ↔ c.Acts .noMore e := by
  constructor
  · intro h
    unfold noMore at h
    split at h
    · split at h <;> cases h
      exact .sawEnd ‹_› ‹_› ‹_›
    · cases h
  · intro h
    cases h with
    | sawEnd line output ended => simp only [noMore, line, output, ended, if_true]

theorem beginClose_eq_some_iff : c.beginClose = some e ↔ c.Acts .beginClose e := by
  constructor
  · intro h
    unfold beginClose at h
    split at h <;> cases h
    rename_i owned
    simp only [Bool.and_eq_true, Bool.not_eq_true'] at owned
    exact .closing owned.1 owned.2
  · intro h
    cases h with
    | closing owned untold => simp [beginClose, owned, untold]

theorem finishClose_eq_some_iff : c.finishClose = some e ↔ c.Acts .finishClose e := by
  have hfinish (told : c.isClosing = true) (unclosed : c.state ≠ .closed)
      (unread : c.readers = []) (unforwarded : c.forwarder = none)
      (recovered : c.isRecovered = true) : c.finishClose =
        some (c.closedAfter (if c.recoveries = [] then c.notices
          else c.notices ++ (c.recoveries.map fun _ => .taskFailedAtClose) ++ [.closedWithErrors]),
          []) := by
    by_cases hnone : c.recoveries = []
    · simp [finishClose, told, unclosed, unread, unforwarded, recovered, hnone, closedAfter]
    · simp [finishClose, told, unclosed, unread, unforwarded, recovered, hnone, closedAfter,
        notify, enter, measure]
  constructor
  · intro h
    have hidle := h
    unfold finishClose at hidle
    obtain ⟨hidle, -⟩ := Option.ite_none_right_eq_some.mp hidle
    simp only [Bool.and_eq_true, decide_eq_true_eq, List.isEmpty_iff,
      Option.isNone_iff_eq_none] at hidle
    obtain ⟨⟨⟨⟨told, unclosed⟩, unread⟩, unforwarded⟩, recovered⟩ := hidle
    rw [hfinish told unclosed unread unforwarded recovered] at h
    cases h
    exact .closed told unclosed unread unforwarded recovered
  · intro h
    cases h with
    | closed told unclosed unread unforwarded recovered =>
      exact hfinish told unclosed unread unforwarded recovered

theorem release_eq_some_iff : c.release = some e ↔ c.Acts .release e := by
  constructor
  · intro h
    unfold release at h
    split at h <;> cases h
    exact .released ‹_›
  · intro h
    cases h with
    | released owned => exact if_pos owned

theorem act_eq_some_iff {a : Act} : c.act a = some e ↔ c.Acts a e := by
  cases a with
  | move who m =>
    refine move_eq_some_iff.trans ⟨.move, fun h => ?_⟩
    cases h with
    | move moves => exact moves
  | publish change now => exact publish_eq_some_iff
  | acknowledge id => exact acknowledge_eq_some_iff
  | answered call o => exact answered_eq_some_iff
  | wait caller => exact wait_eq_some_iff
  | abandon place => exact abandon_eq_some_iff
  | receive => exact receive_eq_some_iff
  | noMore => exact noMore_eq_some_iff
  | beginClose => exact beginClose_eq_some_iff
  | finishClose => exact finishClose_eq_some_iff
  | release => exact release_eq_some_iff

end CatalogReplica.Crew
