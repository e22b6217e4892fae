/-
# CatalogReplica.Queue.Moves.Steps -- what each move does, case by case

`Queue.move` is written to be run. To reason about what a task has done it is taken
apart once: `Moves q m e` has a case for each thing that a move can do, with what must be
true for it, and `move_eq_some_iff` says that these are all. Whatever is proved of moves is
proved by cases on `Moves`, so when a move changes, its cases change here.
-/
import CatalogReplica.Queue.Moves

namespace CatalogReplica.Queue

variable {q : Queue} {e : Effect} {o : Outcome}

/-- In `q` the move `m` is enabled, and it comes to `e`. -/
inductive Moves (q : Queue) : Move → Effect → Prop where
  /-- A queue that only publishes needs no more than the first connection. -/
  | openedOnly (attempt : q.attempt? = some .opening) (publishes : q.settings.writeOnly = true) :
      Moves q .opened (q.attemptSucceeded, [])
  | openedFirst (attempt : q.attempt? = some .opening) (reads : q.settings.writeOnly = false) :
      Moves q .opened (q.goOn .openingReader, [])
  | openedSecond (attempt : q.attempt? = some .openingReader) :
      Moves q .opened (q.goOn (.creating q.resume), [q.consumer.createCommand])
  | openFailed (reason : String)
      (attempt : q.attempt? = some .opening ∨ q.attempt? = some .openingReader) :
      Moves q (.openFailed reason)
        (q.attemptFailed (.service "CONNECT" (.transport reason)), [])
  | created {o : Outcome} {resume : Option EntryId}
      (attempt : q.attempt? = some (.creating resume)) (answer : Consumer.created o = .ok ()) :
      Moves q (.prepared o)
        (q.goOn (.positioning resume), [q.consumer.positionCommand resume])
  | notCreated {o : Outcome} {resume : Option EntryId} {f : Failure}
      (attempt : q.attempt? = some (.creating resume))
      (answer : Consumer.created o = .error f) : Moves q (.prepared o) (q.attemptFailed f, [])
  | positioned {o : Outcome} {resume : Option EntryId}
      (attempt : q.attempt? = some (.positioning resume))
      (answer : Consumer.positioned o = .ok ()) : Moves q (.prepared o) (q.attemptSucceeded, [])
  | notPositioned {o : Outcome} {resume : Option EntryId} {f : Failure}
      (attempt : q.attempt? = some (.positioning resume))
      (answer : Consumer.positioned o = .error f) :
      Moves q (.prepared o) (q.attemptFailed f, [])
  | timedOut {a : Attempt} (attempt : q.attempt? = some a) :
      Moves q .attemptTimedOut
        (q.attemptFailed (.service "CONNECT" (.timedOut q.attemptLimit)), [])
  | asked {r : Reader} (reader : q.reader = some r) (stage : r.stage = .between) :
      Moves q .readerAsked (q.readerAt r .claiming, [q.consumer.claimCommand])
  | claimFailed {o : Outcome} {r : Reader} {f : Failure} (reader : q.reader = some r)
      (stage : r.stage = .claiming) (answer : q.consumer.claimed o = .error f) :
      Moves q (.claimAnswered o) (q.readerFailed f, [])
  | claimed {o : Outcome} {r : Reader} {x : Entry} {k : Consumer} (reader : q.reader = some r)
      (stage : r.stage = .claiming) (answer : q.consumer.claimed o = .ok (some x, k)) :
      Moves q (.claimAnswered o) ({ q with consumer := k }.entryCame r x, [])
  | claimedNothing {o : Outcome} {r : Reader} {k : Consumer} (reader : q.reader = some r)
      (stage : r.stage = .claiming) (answer : q.consumer.claimed o = .ok (none, k)) :
      Moves q (.claimAnswered o)
        ({ q with consumer := k }.readerAt r .reading, [k.readCommand])
  | readFailed {o : Outcome} {r : Reader} {f : Failure} (reader : q.reader = some r)
      (stage : r.stage = .reading) (answer : Consumer.read o = .error f) :
      Moves q (.readAnswered o) (q.readerFailed f, [])
  | read {o : Outcome} {r : Reader} {x : Entry} (reader : q.reader = some r)
      (stage : r.stage = .reading) (answer : Consumer.read o = .ok (some x)) :
      Moves q (.readAnswered o) (q.entryCame r x, [])
  | readNothing {o : Outcome} {r : Reader} (reader : q.reader = some r)
      (stage : r.stage = .reading) (answer : Consumer.read o = .ok none) :
      Moves q (.readAnswered o) (q.readerAt r .between, [])
  | handedOn {event : Event} {stopping : Bool} {fw : Forwarder}
      (reader : q.reader = some ⟨.offering event, stopping⟩) (input : q.input = none)
      (forwarder : q.forwarder = some fw) :
      Moves q .handedOn
        ({ q with reader := some ⟨.between, stopping⟩, input := some event }, [])
  | readerStopped {r : Reader} (reader : q.reader = some r)
      (told : (r.isStopping || q.isEnding) = true) :
      Moves q .readerStopped ({ q with reader := none }, [])
  | took {event : Event} (forwarder : q.forwarder = some .waiting)
      (input : q.input = some event) :
      Moves q .forwarderTook
        ({ q with forwarder := some (.holding event), input := none }, [])
  | put {event : Event} (forwarder : q.forwarder = some (.holding event))
      (output : q.output = none) :
      Moves q .forwarderPut ({ q with forwarder := some .waiting, output := some event }, [])
  | forwarderStopped {fw : Forwarder} (forwarder : q.forwarder = some fw)
      (told : q.isEnding = true) :
      Moves q .forwarderStopped ({ q with forwarder := none, input := none }, [])
  | recoveryBegan (recovery : q.recovery = some .started) :
      Moves q .recoveryBegan ({ q with
        isConnected := false
        reader := q.reader.map fun r => { r with isStopping := true }
        recovery := some .stoppingReader }, [])
  | scheduled (uptime : Nat) (recovery : q.recovery = some .stoppingReader)
      (reader : q.reader = none) :
      Moves q (.recoveryScheduled uptime) ({ q with
        recovery := some (if isSchedulable q.settings uptime then .waiting else .broken) }, [])
  | attemptBegan (recovery : q.recovery = some .waiting) :
      Moves q .attemptBegan ({ q with recovery := some (.connecting .opening) }, [])
  | recoveryStopped {t : Recovery} (told : q.isEnding = true) (recovery : q.recovery = some t)
      (free : t = .waiting ∨ ∃ a, t = .connecting a) :
      Moves q .recoveryStopped ({ q with recovery := none }, [])

/-! ## Connecting -/

theorem opened_eq_some_iff : q.opened = some e ↔ q.Moves .opened e := by
  constructor
  · intro h
    unfold opened at h
    split at h
    · split at h <;> cases h
      · exact .openedOnly ‹_› ‹_›
      · exact .openedFirst ‹_› (Bool.eq_false_iff.mpr ‹_›)
    · cases h
      exact .openedSecond ‹_›
    · cases h
  · intro h
    cases h with
    | openedOnly attempt publishes => simp only [opened, attempt, publishes, if_true]
    | openedFirst attempt reads => simp only [opened, attempt, reads, Bool.false_eq_true, if_false]
    | openedSecond attempt => simp only [opened, attempt]

theorem openFailed_eq_some_iff {reason : String} :
    q.openFailed reason = some e ↔ q.Moves (.openFailed reason) e := by
  constructor
  · intro h
    unfold openFailed at h
    split at h <;> cases h
    · exact .openFailed reason (.inl ‹_›)
    · exact .openFailed reason (.inr ‹_›)
  · intro h
    cases h with
    | openFailed _ attempt =>
      rcases attempt with attempt | attempt <;> simp only [openFailed, attempt]

theorem prepared_eq_some_iff : q.prepared o = some e ↔ q.Moves (.prepared o) e := by
  constructor
  · intro h
    unfold prepared at h
    split at h
    · split at h <;> cases h
      · exact .created ‹_› ‹_›
      · exact .notCreated ‹_› ‹_›
    · split at h <;> cases h
      · exact .positioned ‹_› ‹_›
      · exact .notPositioned ‹_› ‹_›
    · cases h
  · intro h
    cases h with
    | created attempt answer | notCreated attempt answer | positioned attempt answer
    | notPositioned attempt answer => simp only [prepared, attempt, answer]

theorem attemptTimedOut_eq_some_iff : q.attemptTimedOut = some e ↔ q.Moves .attemptTimedOut e := by
  constructor
  · intro h
    obtain ⟨a, attempt, rfl⟩ := Option.map_eq_some_iff.mp h
    exact .timedOut attempt
  · intro h
    cases h with
    | timedOut attempt => simp only [attemptTimedOut, attempt, Option.map_some]

/-! ## Reading -/

theorem readerAsked_eq_some_iff : q.readerAsked = some e ↔ q.Moves .readerAsked e := by
  constructor
  · intro h
    unfold readerAsked at h
    split at h
    · split at h <;> cases h
      exact .asked ‹_› ‹_›
    · cases h
  · intro h
    cases h with
    | asked reader stage => simp only [readerAsked, reader, stage, if_true]

theorem claimAnswered_eq_some_iff : q.claimAnswered o = some e ↔ q.Moves (.claimAnswered o) e := by
  constructor
  · intro h
    unfold claimAnswered at h
    split at h
    · split at h
      · split at h <;> cases h
        · exact .claimFailed ‹_› ‹_› ‹_›
        · exact .claimed ‹_› ‹_› ‹_›
        · exact .claimedNothing ‹_› ‹_› ‹_›
      · cases h
    · cases h
  · intro h
    cases h with
    | claimFailed reader stage answer | claimed reader stage answer
    | claimedNothing reader stage answer =>
      simp only [claimAnswered, reader, stage, answer, if_true]

theorem readAnswered_eq_some_iff : q.readAnswered o = some e ↔ q.Moves (.readAnswered o) e := by
  constructor
  · intro h
    unfold readAnswered at h
    split at h
    · split at h
      · split at h <;> cases h
        · exact .readFailed ‹_› ‹_› ‹_›
        · exact .read ‹_› ‹_› ‹_›
        · exact .readNothing ‹_› ‹_› ‹_›
      · cases h
    · cases h
  · intro h
    cases h with
    | readFailed reader stage answer | read reader stage answer | readNothing reader stage answer =>
      simp only [readAnswered, reader, stage, answer, if_true]

theorem handedOn_eq_some_iff : q.handedOn = some e ↔ q.Moves .handedOn e := by
  constructor
  · intro h
    unfold handedOn at h
    split at h <;> cases h
    exact .handedOn ‹_› ‹_› ‹_›
  · intro h
    cases h with
    | handedOn reader input forwarder => simp only [handedOn, reader, input, forwarder]

theorem readerStopped_eq_some_iff : q.readerStopped = some e ↔ q.Moves .readerStopped e := by
  constructor
  · intro h
    unfold readerStopped at h
    split at h
    · split at h <;> cases h
      exact .readerStopped ‹_› ‹_›
    · cases h
  · intro h
    cases h with
    | readerStopped reader told => simp only [readerStopped, reader, told, if_true]

/-! ## Forwarding -/

theorem forwarderTook_eq_some_iff : q.forwarderTook = some e ↔ q.Moves .forwarderTook e := by
  constructor
  · intro h
    unfold forwarderTook at h
    split at h <;> cases h
    exact .took ‹_› ‹_›
  · intro h
    cases h with
    | took forwarder input => simp only [forwarderTook, forwarder, input]

theorem forwarderPut_eq_some_iff : q.forwarderPut = some e ↔ q.Moves .forwarderPut e := by
  constructor
  · intro h
    unfold forwarderPut at h
    split at h <;> cases h
    exact .put ‹_› ‹_›
  · intro h
    cases h with
    | put forwarder output => simp only [forwarderPut, forwarder, output]

theorem forwarderStopped_eq_some_iff :
    q.forwarderStopped = some e ↔ q.Moves .forwarderStopped e := by
  constructor
  · intro h
    unfold forwarderStopped at h
    split at h
    · split at h <;> cases h
      exact .forwarderStopped ‹_› ‹_›
    · cases h
  · intro h
    cases h with
    | forwarderStopped forwarder told => simp only [forwarderStopped, forwarder, told, if_true]

/-! ## Recovering -/

theorem recoveryBegan_eq_some_iff : q.recoveryBegan = some e ↔ q.Moves .recoveryBegan e := by
  constructor
  · intro h
    unfold recoveryBegan at h
    split at h <;> cases h
    exact .recoveryBegan ‹_›
  · intro h
    cases h with
    | recoveryBegan recovery => exact if_pos recovery

theorem recoveryScheduled_eq_some_iff {uptime : Nat} :
    q.recoveryScheduled uptime = some e ↔ q.Moves (.recoveryScheduled uptime) e := by
  constructor
  · intro h
    unfold recoveryScheduled at h
    split at h <;> cases h
    rename_i stopped
    exact .scheduled uptime stopped.1 stopped.2
  · intro h
    cases h with
    | scheduled _ recovery reader => exact if_pos ⟨recovery, reader⟩

theorem attemptBegan_eq_some_iff : q.attemptBegan = some e ↔ q.Moves .attemptBegan e := by
  constructor
  · intro h
    unfold attemptBegan at h
    split at h <;> cases h
    exact .attemptBegan ‹_›
  · intro h
    cases h with
    | attemptBegan recovery => exact if_pos recovery

theorem recoveryStopped_eq_some_iff : q.recoveryStopped = some e ↔ q.Moves .recoveryStopped e := by
  constructor
  · intro h
    unfold recoveryStopped at h
    split at h
    · split at h <;> cases h
      · exact .recoveryStopped ‹_› ‹_› (.inl rfl)
      · exact .recoveryStopped ‹_› ‹_› (.inr ⟨_, rfl⟩)
    · cases h
  · intro h
    cases h with
    | recoveryStopped told recovery free =>
      rcases free with rfl | ⟨a, rfl⟩ <;> simp only [recoveryStopped, told, recovery, if_true]

/-! ## All moves -/

theorem move_eq_some_iff {m : Move} : q.move m = some e ↔ q.Moves m e := by
  cases m with
  | opened => exact opened_eq_some_iff
  | openFailed reason => exact openFailed_eq_some_iff
  | prepared o => exact prepared_eq_some_iff
  | attemptTimedOut => exact attemptTimedOut_eq_some_iff
  | readerAsked => exact readerAsked_eq_some_iff
  | claimAnswered o => exact claimAnswered_eq_some_iff
  | readAnswered o => exact readAnswered_eq_some_iff
  | handedOn => exact handedOn_eq_some_iff
  | readerStopped => exact readerStopped_eq_some_iff
  | forwarderTook => exact forwarderTook_eq_some_iff
  | forwarderPut => exact forwarderPut_eq_some_iff
  | forwarderStopped => exact forwarderStopped_eq_some_iff
  | recoveryBegan => exact recoveryBegan_eq_some_iff
  | recoveryScheduled uptime => exact recoveryScheduled_eq_some_iff
  | attemptBegan => exact attemptBegan_eq_some_iff
  | recoveryStopped => exact recoveryStopped_eq_some_iff

end CatalogReplica.Queue
