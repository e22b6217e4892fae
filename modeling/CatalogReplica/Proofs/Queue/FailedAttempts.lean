/-
# CatalogReplica.Proofs.Queue.FailedAttempts -- a failed attempt to connect changes nothing

A *course* is what happens from the beginning of an attempt for as long as each of its steps
succeeds. Other tasks move meanwhile, and callers call. Whatever they do, they could have
done as well had the attempt not moved at all, and the queue would now be the same, but for
how far the attempt has come. A failure makes the queue forget how far that was. So only
the count of failures and a line of the log tell of an attempt that has failed, and the
next one sends the same commands.
-/
import CatalogReplica.Proofs.Queue.Attempts

namespace CatalogReplica

/-- How many commands an attempt has sent when it has come so far. -/
def Attempt.commandsSent : Attempt → Nat
  | .opening | .openingReader => 0
  | .creating _ => 1
  | .positioning _ => 2

namespace Queue

variable {q q' : Queue} {a b : Attempt} {m : Move} {e : Effect}

/-- What an attempt sends as a whole: nothing if the queue only publishes, otherwise what
creates the group and what puts it behind the last entry. -/
def attemptCommands (q : Queue) : List Command :=
  if q.settings.writeOnly then []
  else [q.consumer.createCommand, q.consumer.positionCommand q.resume]

/-! ## What others do meanwhile -/

/-- Whether a move is one of the forwarder. -/
def Move.isOfForwarder : Move → Bool
  | .forwarderTook | .forwarderPut | .forwarderStopped => true
  | _ => false

theorem created_of_recovery (hfirst : FirstAlone q) {t : Recovery} (ht : q.recovery = some t) :
    q.firstAttempt = none := by
  cases hcreated : q.firstAttempt with
  | some b => cases (hfirst b hcreated).1.symm.trans ht
  | none => rfl

/-- A recovery that is pending is the one that connects. -/
theorem connecting_of_recovery (hfirst : FirstAlone q) (ha : q.attempt? = some a) {t : Recovery}
    (ht : q.recovery = some t) : t = .connecting a :=
  Option.some.inj (ht.symm.trans (recovery_of_attempt? ha (created_of_recovery hfirst ht)))

theorem attempt?_unrecovered (hfirst : FirstAlone q) {t : Recovery} (ht : q.recovery = some t) :
    { q with recovery := none }.attempt? = none := by
  have hcreated : q.firstAttempt = none := created_of_recovery hfirst ht
  exact attempt?_eq_none hcreated fun _ hconnecting => by cases hconnecting

/-- While an attempt is under way nobody moves but the forwarder, unless the recovery is
told to end. -/
theorem isOfForwarder_of_other (hfirst : FirstAlone q) (hunread : q.reader = none)
    (ha : q.attempt? = some a) (hother : m.isOfAttempt = false) (hmove : q.move m = some e)
    (hlasts : e.1.attempt? = some a) : m.isOfForwarder = true := by
  cases move_eq_some_iff.mp hmove with
  | openedOnly | openedFirst | openedSecond | openFailed | created | notCreated | positioned
  | notPositioned | timedOut => cases hother
  | asked reader | claimFailed reader | claimed reader | claimedNothing reader
  | readFailed reader | read reader | readNothing reader | handedOn reader
  | readerStopped reader => cases hunread.symm.trans reader
  | took | put | forwarderStopped => rfl
  | recoveryBegan recovery | scheduled _ recovery | attemptBegan recovery =>
    cases connecting_of_recovery hfirst ha recovery
  | recoveryStopped _ recovery =>
    -- the recovery ends, and the attempt with it
    cases hlasts.symm.trans (attempt?_unrecovered hfirst recovery)

/-- The forwarder does not see how far an attempt has come. -/
theorem move_goOn (hm : m.isOfForwarder = true) (hmove : q.move m = some e) (a : Attempt) :
    (q.goOn a).move m = some (e.1.goOn a, e.2) := by
  rw [goOn_eq, goOn_eq, move_eq_some_iff]
  cases move_eq_some_iff.mp hmove with
  | took forwarder input => exact .took forwarder input
  | put forwarder output => exact .put forwarder output
  | forwarderStopped forwarder told => exact .forwarderStopped forwarder told
  | _ => cases hm

/-- A recovery is at work already, so another loss is no news. -/
theorem lose_of_recovering (h : q.recovery.isSome = true) (m : Measurement) (f : Failure) :
    (q.measure m).lose f = q.measure m := by
  simp [lose, measure, h]

theorem firstAttempt_call {c : Call} (h : q.Calls c q') : q'.firstAttempt = q.firstAttempt := by
  have hlose (q : Queue) (f : Failure) : (q.lose f).firstAttempt = q.firstAttempt := by
    unfold lose
    split <;> rfl
  cases h with
  | publishLost | ackLost => exact hlose _ _
  | _ => rfl

/-- No caller sees how far a recovery has come with its attempt. -/
theorem call_goOn (hcreated : q.firstAttempt = none) (ha : q.recovery = some (.connecting a))
    {c : Call} (hcall : q.call c = some q') (b : Attempt) :
    (q.goOn b).call c = some (q'.goOn b) := by
  have hrecovering : q.recovery.isSome = true := by simp [ha]
  have hcalls := call_eq_some_iff.mp hcall
  rw [Journal.goOn_of_none hcreated,
    Journal.goOn_of_none ((firstAttempt_call hcalls).trans hcreated), call_eq_some_iff]
  cases hcalls with
  | received output => exact .received output
  | receivedNothing output => exact .receivedNothing output
  | published answer => exact .published answer
  | notPublished answer linked => exact .notPublished answer linked
  | publishLost answer lost =>
    have hlost := Calls.publishLost (q := { q with recovery := some (.connecting b) }) answer lost
    rw [lose_of_recovering rfl] at hlost
    rw [lose_of_recovering hrecovering]
    exact hlost
  | acknowledged answer => exact .acknowledged answer
  | notAcknowledged answer linked => exact .notAcknowledged answer linked
  | ackLost answer lost =>
    have hlost := Calls.ackLost (q := { q with recovery := some (.connecting b) }) answer lost
    rw [lose_of_recovering rfl] at hlost
    rw [lose_of_recovering hrecovering]
    exact hlost
  | closing untold => exact .closing untold
  -- the recovery is a task that has not ended
  | closed _ _ idle => simp [isIdle, isRecovering, ha] at idle
  | released => exact .released

/-- What the forwarder does is between the channels. -/
theorem quiet_of_forwarder (hm : m.isOfForwarder = true) (hmove : q.move m = some e) :
    e.2 = [] ∧ ∀ q' : Queue, q'.entry? m = none ∧ q'.connects m = false := by
  cases move_eq_some_iff.mp hmove with
  | took | put | forwarderStopped => exact ⟨rfl, fun _ => ⟨rfl, rfl⟩⟩
  | _ => cases hm

/-! ## What an attempt sends -/

theorem StaysApart.attemptCommands_eq (h : StaysApart q q') :
    q'.attemptCommands = q.attemptCommands := by
  unfold attemptCommands
  rw [h.settings, h.consumer, h.resume]

/-- What is sent next comes next. -/
theorem take_sends (hreads : a ≠ .opening → q.settings.writeOnly = false)
    (hresume : ∀ resume, a = .creating resume → resume = q.resume) (hnext : q.next? a = some b) :
    q.attemptCommands.take a.commandsSent ++ q.sends a = q.attemptCommands.take b.commandsSent ∧
      q.settings.writeOnly = false := by
  cases a with
  | opening =>
    simp only [next?] at hnext
    split at hnext
    case isTrue => cases hnext
    case isFalse hreading =>
      cases hnext
      exact ⟨rfl, Bool.eq_false_iff.mpr hreading⟩
  | openingReader =>
    cases hnext
    have hreading := hreads (by simp)
    simp [attemptCommands, sends, Attempt.commandsSent, hreading]
  | creating resume =>
    cases hnext
    have hreading := hreads (by simp)
    simp [attemptCommands, sends, Attempt.commandsSent, hreading, hresume resume rfl]
  | positioning resume => cases hnext

/-- When an attempt succeeds, everything was sent. -/
theorem take_sends_all (hnext : q.next? a = none) :
    q.attemptCommands.take a.commandsSent ++ q.sends a = q.attemptCommands := by
  cases a with
  | opening =>
    simp only [next?] at hnext
    split at hnext
    case isTrue hwrite => simp [attemptCommands, sends, Attempt.commandsSent, hwrite]
    case isFalse => cases hnext
  | openingReader => cases hnext
  | creating resume => cases hnext
  | positioning resume =>
    unfold attemptCommands
    cases q.settings.writeOnly <;> rfl

theorem not_completes_of_other (hother : m.isOfAttempt = false) : q.completes m = false := by
  cases m <;> first | rfl | cases hother

/-! ## What an attempt leaves -/

/-- The counter of failed attempts. -/
def failedAttempts : MetricKey :=
  ⟨"catalog_queue_connection_attempts_total", [("status", statusLabel false)]⟩

/-- A failure counts once, and nothing else does. -/
theorem counter_leftByFailure (q : Queue) (key : MetricKey) :
    q.leftByFailure.measurements.counter key =
      if key = failedAttempts then (q.measurements.counter key + 1) % word
      else q.measurements.counter key := by
  show Measurements.counter (q.measurements ++ [.connectionAttempt false]) key = _
  have hadds : Measurements.counter [.connectionAttempt false] key =
      if failedAttempts = key then 1 else 0 := by
    show ((if failedAttempts = key then 1 else 0) + 0) % word = _
    split <;> rfl
  rw [Measurements.counter_append, hadds]
  by_cases hkey : key = failedAttempts
  · rw [if_pos hkey, if_pos hkey.symm]
  · rw [if_neg hkey, if_neg (Ne.symm hkey), Nat.add_zero]
    exact Nat.mod_mod _ _

theorem attempt?_leftByFailure (hfirst : FirstAlone q) : q.leftByFailure.attempt? = none := by
  refine attempt?_eq_none rfl ?_
  intro a ha
  cases hcreated : q.firstAttempt with
  | some b =>
    have hrecovery : q.recovery = some (.connecting a) := by
      simpa [leftByFailure, hcreated] using ha
    cases (hfirst b hcreated).1.symm.trans hrecovery
  | none => simp [leftByFailure, hcreated] at ha

theorem attempt?_attemptFailed (hfirst : FirstAlone q) (f : Failure) :
    (q.attemptFailed f).attempt? = none := by
  rw [attemptFailed_eq]
  split
  · rw [attempt?_lose]
    exact attempt?_leftByFailure hfirst
  · exact attempt?_leftByFailure hfirst

theorem attempt?_attemptSucceeded (q : Queue) : q.attemptSucceeded.attempt? = none := by
  unfold attemptSucceeded
  dsimp only
  split <;> rfl

/-- Where an attempt is when it has gone on. -/
theorem next?_of_advances (ha : q.attempt? = some a) (hadvances : q.advances m = true)
    (hmove : q.move m = some e) (hb : e.1.attempt? = some b) : q.next? a = some b := by
  rw [move_of_advances ha hadvances] at hmove
  cases hmove
  simp only [advanced] at hb
  split at hb
  case h_1 hnext => rwa [attempt?_goOn, ← hnext] at hb
  case h_2 => cases (attempt?_attemptSucceeded q).symm.trans hb

theorem entry?_of_advances (h : q.advances m = true) (q' : Queue) : q'.entry? m = none := by
  cases m <;> first | rfl | cases h

end Queue

namespace Journal

open Queue (FirstAlone StaysApart created_of_recovery)

variable {s : QueueSettings} {j k k' l : Journal} {q q' : Queue} {a b : Attempt}
variable {acts : List Act} {sent : List Command}

/-! ## Courses -/

/-- The course of an attempt that begins in `j`: what others have done since, what the
attempt has sent, and where this has led. -/
inductive Course (j : Journal) : List Act → List Command → Journal → Prop where
  | begins (opening : j.queue.attempt? = some .opening) : Course j [] [] j
  | others {acts : List Act} {sent : List Command} {k k' : Journal} {act : Act}
      (before : Course j acts sent k) (underWay : k.queue.attempt?.isSome = true)
      (other : act.isOfAttempt = false) (happens : k.act act = some k')
      (lasts : k'.queue.attempt? = k.queue.attempt?) : Course j (acts ++ [act]) sent k'
  | goesOn {acts : List Act} {sent : List Command} {k : Journal} {m : Queue.Move}
      {e : Queue.Effect} (before : Course j acts sent k) (advances : k.queue.advances m = true)
      (happens : k.queue.move m = some e) : Course j acts (sent ++ e.2) (k.enter m e)

theorem Course.reachable (h : Course j acts sent k) (hj : Reachable s j) : Reachable s k := by
  induction h with
  | begins => exact hj
  | others _ _ _ happens _ ih => exact ih.act happens
  | @goesOn _ _ k m e _ _ happens ih =>
    have hact : k.act (.move m) = some (k.enter m e) := Option.map_eq_some_iff.mpr ⟨e, happens, rfl⟩
    exact ih.act hact

/-- Others could have done the same if the attempt were elsewhere, whatever it has sent. -/
theorem others_act (h : Sound s k) (ha : k.queue.attempt? = some a) {act : Act}
    (hother : act.isOfAttempt = false) (hact : k.act act = some k')
    (hlasts : k'.queue.attempt? = some a) (b : Attempt) (lines : List (List Dispatch)) :
    Journal.act ⟨k.queue.goOn b, k.decoded, lines⟩ act =
      some ⟨k'.queue.goOn b, k'.decoded, lines⟩ := by
  cases act with
  | move m =>
    obtain ⟨e, he, rfl⟩ := Option.map_eq_some_iff.mp hact
    have hm : m.isOfForwarder = true :=
      Queue.isOfForwarder_of_other h.first (h.no_reader (tries_of_attempt? ha)) ha hother he hlasts
    obtain ⟨hsilent, hquiet⟩ := Queue.quiet_of_forwarder hm he
    have hmove : (k.queue.goOn b).move m = some (e.1.goOn b, []) := by
      rw [Queue.move_goOn hm he, hsilent]
    refine Option.map_eq_some_iff.mpr ⟨_, hmove, ?_⟩
    rw [enter_silent (hquiet _).1 (hquiet _).2, enter_apart (hquiet _).1 (hquiet _).2]
  | call c =>
    obtain ⟨hheld, hcall⟩ := Option.ite_none_right_eq_some.mp hact
    have hcreated : k.queue.firstAttempt = none := Option.isNone_iff_eq_none.mp hheld
    have hrecovery := Queue.recovery_of_attempt? ha hcreated
    obtain ⟨q, hq, rfl⟩ := Option.map_eq_some_iff.mp hcall
    have hgoOn : (k.queue.goOn b).firstAttempt.isNone = true := by
      rw [Queue.goOn_eq, hcreated]
      rfl
    simp only [Journal.act, Journal.call, if_pos hgoOn, Queue.call_goOn hcreated hrecovery hq,
      Option.map_some]

/-- An attempt is under way after an act only if it was so before, or has just begun. -/
theorem underWay_before {act : Act} (hfirst : FirstAlone q) (hturn : Turn q act q')
    (ha : q'.attempt? = some a) :
    (act.isOfAttempt = false ∧ q.attempt? = some a) ∨
      (∃ m b, act = .move m ∧ q.advances m = true ∧ q.attempt? = some b) ∨ a = .opening := by
  cases hturn with
  | reads _ other keeps => exact .inl ⟨other, keeps.attempt?.symm.trans ha⟩
  | passes other keeps _ => exact .inl ⟨other, keeps.attempt?.symm.trans ha⟩
  | loses other _ keeps _ =>
    rw [Queue.attempt?_lose] at ha
    exact .inl ⟨other, keeps.attempt?.symm.trans ha⟩
  | goesOn advances underWay _ => exact .inr (.inl ⟨_, _, rfl, advances, underWay⟩)
  | succeeds _ => cases (Queue.attempt?_attemptSucceeded q).symm.trans ha
  | fails _ => cases (Queue.attempt?_attemptFailed hfirst _).symm.trans ha
  | begins waiting =>
    have hcreated := created_of_recovery hfirst waiting
    have hsame : a = .opening := by simpa [Queue.attempt?, hcreated] using ha.symm
    exact .inr (.inr hsame)
  -- in what is left the recovery does not connect
  | letsGo started =>
    have hcreated := created_of_recovery hfirst started
    simp [Queue.attempt?, hcreated] at ha
  | schedules stopped next =>
    have hcreated := created_of_recovery hfirst stopped
    rcases next with rfl | rfl <;> simp [Queue.attempt?, hcreated] at ha
  | givesUp recovering => cases (Queue.attempt?_unrecovered hfirst recovering).symm.trans ha
  | closes created recovered _ => simp [Queue.attempt?, created, recovered] at ha

/-- Whatever attempt is under way, it has begun, and each step of it has succeeded. -/
theorem Reachable.course (h : Reachable s k) (ha : k.queue.attempt? = some a) :
    ∃ j acts sent, Reachable s j ∧ Course j acts sent k := by
  induction h generalizing a with
  | @fresh q created =>
    have hopening : q.attempt? = some .opening := by
      simp [Queue.attempt?, (Queue.isNew_of_create created).first]
    exact ⟨_, [], [], .fresh created, .begins hopening⟩
  | @act i k act reached happens ih =>
    have hturn := reached.sound.turn happens
    -- others have acted, the attempt has gone on, or it has begun by this act
    rcases underWay_before reached.sound.first hturn ha with
      ⟨hother, hbefore⟩ | ⟨m, b, rfl, hadvances, hbefore⟩ | rfl
    · obtain ⟨j, acts, sent, hj, hcourse⟩ := ih hbefore
      have hunderWay : i.queue.attempt?.isSome = true := by simp [hbefore]
      exact ⟨j, _, _, hj, hcourse.others hunderWay hother happens (ha.trans hbefore.symm)⟩
    · obtain ⟨j, acts, sent, hj, hcourse⟩ := ih hbefore
      obtain ⟨e, he, rfl⟩ := Option.map_eq_some_iff.mp happens
      exact ⟨j, _, _, hj, hcourse.goesOn hadvances he⟩
    · exact ⟨k, [], [], reached.act happens, .begins ha⟩

/-- A course in which the attempt has not come to its end is one without a success. -/
theorem Course.unconnected (h : Course j acts sent k)
    (ha : k.queue.attempt? = some a) : Unconnected j k := by
  induction h generalizing a with
  | begins => exact .here
  | others _ _ other happens lasts ih =>
    refine (ih (lasts.symm.trans ha)).act happens ?_
    rintro m rfl
    exact Queue.not_completes_of_other other
  | @goesOn _ _ k m e before advances happens ih =>
    obtain ⟨b, hb⟩ := Queue.underWay_of_advances advances
    have hact : k.act (.move m) = some (k.enter m e) :=
      Option.map_eq_some_iff.mpr ⟨e, happens, rfl⟩
    refine (ih hb).act hact ?_
    rintro _ ⟨⟩
    have hnext : k.queue.next? b = some a := Queue.next?_of_advances hb advances happens ha
    simp [Queue.completes, hb, hnext]

theorem Course.opening (h : Course j acts sent k) : j.queue.attempt? = some .opening := by
  induction h with
  | begins opening => exact opening
  | others _ _ _ _ _ ih => exact ih
  | goesOn _ _ _ ih => exact ih

theorem Course.staysApart (hj : Reachable s j) (h : Course j acts sent k)
    (ha : k.queue.attempt? = some a) : StaysApart j.queue k.queue :=
  (h.unconnected ha).staysApart hj h.opening

theorem run_concat (j : Journal) (acts : List Act) (act : Act) :
    j.run (acts ++ [act]) = (j.run acts).bind fun k => k.act act := by
  simp only [run, List.foldlM_append, List.foldlM_cons, List.foldlM_nil, bind_pure]
  rfl

/-- An attempt knows the position that the queue has. -/
theorem Sound.resume_of_creating (h : Sound s k) (ha : k.queue.attempt? = some a) :
    ∀ resume, a = .creating resume → resume = k.queue.resume := by
  rintro resume rfl
  exact (h.attempt _ (tries_of_attempt? ha)).1.trans h.resume.symm

/-- As far as an attempt has come, all that it has done is to send its first commands. -/
theorem Course.underWay (hj : Reachable s j) (h : Course j acts sent k)
    (ha : k.queue.attempt? = some a) :
    j.run acts = some ⟨k.queue.goOn .opening, k.decoded, j.connections⟩ ∧
    sent = j.queue.attemptCommands.take a.commandsSent ∧
    (a ≠ .opening → j.queue.settings.writeOnly = false) := by
  induction h generalizing a with
  | begins opening =>
    obtain rfl : Attempt.opening = a := Option.some.inj (opening.symm.trans ha)
    rw [Queue.goOn_self opening]
    exact ⟨rfl, rfl, fun hlater => absurd rfl hlater⟩
  | @others acts sent k k' act before underWay other happens lasts ih =>
    have hbefore : k.queue.attempt? = some a := lasts.symm.trans ha
    obtain ⟨hrun, hsent, hreads⟩ := ih hbefore
    refine ⟨?_, hsent, hreads⟩
    -- the act is possible from the beginning of the attempt as well
    rw [run_concat, hrun, Option.bind_some]
    exact others_act (before.reachable hj).sound hbefore other happens ha .opening j.connections
  | @goesOn acts sent k m e before advances happens ih =>
    obtain ⟨b, hb⟩ := Queue.underWay_of_advances advances
    obtain ⟨hrun, hsent, hreads⟩ := ih hb
    -- nothing was read since the attempt began, so its commands are still the same
    have hapart : StaysApart j.queue k.queue := before.staysApart hj hb
    have hnext : k.queue.next? b = some a := Queue.next?_of_advances hb advances happens ha
    have hresume := (before.reachable hj).sound.resume_of_creating hb
    obtain ⟨hsends, hreading⟩ :=
      Queue.take_sends (fun hlater => hapart.settings ▸ hreads hlater) hresume hnext
    rw [Queue.move_of_advances hb advances] at happens
    cases happens
    refine ⟨?_, ?_, fun _ => hapart.settings ▸ hreading⟩
    · have hdecoded : (k.enter m (k.queue.advanced b, k.queue.sends b)).decoded = k.decoded := by
        simp [enter, Queue.entry?_of_advances advances]
      have hqueue : (k.enter m (k.queue.advanced b, k.queue.sends b)).queue.goOn .opening =
          k.queue.goOn .opening := by
        show (k.queue.advanced b).goOn .opening = _
        simp only [Queue.advanced, hnext, Queue.goOn_goOn]
      rw [hdecoded, hqueue]
      exact hrun
    · rw [hsent, ← hapart.attemptCommands_eq]
      exact hsends

/-- With its last answer an attempt connects, unless the queue has been told to close. -/
theorem advanced_last (hnext : q.next? a = none) (hopen : q.isClosing = false) :
    (q.advanced a).state = .connected ∧ (q.advanced a).isConnected = true ∧
    (q.advanced a).recovery = none ∧
    (q.advanced a).reader = if q.settings.writeOnly then none else some ⟨.between, false⟩ := by
  simp only [Queue.advanced, hnext]
  unfold Queue.attemptSucceeded
  dsimp only
  split
  case isTrue hclosing => cases hopen.symm.trans hclosing
  case isFalse => exact ⟨rfl, rfl, rfl, rfl⟩

/-- An attempt to connect that is under way has done nothing so far but send its first
commands: without it, what others have done since it began leads to the same queue. While
it is under way the queue is disconnected, if it is the first attempt, and reconnecting
otherwise.

If the attempt fails, in whatever way, nothing is sent, and it leaves the queue as it was,
except that one more failed attempt is counted and logged; for the first attempt the loss is
then reported. There is no connection and no reader until an attempt succeeds, and up to then
all attempts send the same commands from the beginning.

If the attempt gets what it waits for, it goes on; and with the last answer everything was
sent and the queue is connected, unless it has been told to close. -/
theorem failed_attempt_changes_nothing (h : Reachable s k) (ha : k.queue.attempt? = some a) :
    (∃ j acts sent, Reachable s j ∧ Course j acts sent k) ∧
    (∀ j acts sent, Reachable s j → Course j acts sent k →
      j.run acts = some ⟨k.queue.goOn .opening, k.decoded, j.connections⟩ ∧
      sent = j.queue.attemptCommands.take a.commandsSent) ∧
    k.queue.state = (if k.queue.firstAttempt.isSome then .disconnected else .reconnecting) ∧
    (∀ m, m.isOfAttempt = true → (k.queue.move m).isSome = true →
      k.queue.advances m = true ∨ k.queue.fails m = true) ∧
    (∀ m, k.queue.fails m = true → ∃ f q, k.queue.move m = some (q, []) ∧
      q = (if k.queue.firstAttempt.isSome then k.queue.leftByFailure.lose f
        else k.queue.leftByFailure) ∧
      StaysApart k.queue q) ∧
    (∀ key, k.queue.leftByFailure.measurements.counter key =
      if key = Queue.failedAttempts then (k.queue.measurements.counter key + 1) % word
      else k.queue.measurements.counter key) ∧
    (∀ l, Unconnected k l → StaysApart k.queue l.queue ∧
      ∀ acts sent n b, Course l acts sent n → n.queue.attempt? = some b →
        sent = k.queue.attemptCommands.take b.commandsSent) ∧
    (∀ m, k.queue.advances m = true → ∃ e, k.queue.move m = some e ∧
      (∀ b, k.queue.next? a = some b → e.1 = k.queue.goOn b) ∧
      (k.queue.next? a = none →
        (∀ j acts sent, Reachable s j → Course j acts sent k →
          sent ++ e.2 = j.queue.attemptCommands) ∧
        (k.queue.isClosing = false → e.1.state = .connected ∧ e.1.isConnected = true ∧
          e.1.recovery = none ∧
          e.1.reader = if k.queue.settings.writeOnly then none else some ⟨.between, false⟩))) := by
  have hself : StaysApart k.queue k.queue := Unconnected.here.staysApart h ha
  refine ⟨h.course ha, ?_, h.steady.state_of_attempt ha, fun m => Queue.advances_or_fails, ?_,
    Queue.counter_leftByFailure _, ?_, ?_⟩
  · intro j acts sent hj hcourse
    obtain ⟨hrun, hsent, -⟩ := hcourse.underWay hj ha
    exact ⟨hrun, hsent⟩
  · intro m hfails
    obtain ⟨f, hmove⟩ := Queue.move_of_fails hfails
    exact ⟨f, _, hmove, Queue.attemptFailed_eq _ _, hself.attemptFailed f⟩
  · intro l hl
    have hapart : StaysApart k.queue l.queue := hl.staysApart h ha
    refine ⟨hapart, ?_⟩
    intro acts sent n b hcourse hb
    rw [← hapart.attemptCommands_eq]
    exact (hcourse.underWay (hl.reachable h) hb).2.1
  · intro m hadvances
    refine ⟨_, Queue.move_of_advances ha hadvances, ?_, ?_⟩
    · intro b hb
      simp only [Queue.advanced, hb]
    · -- there is nothing left to wait for
      intro hnext
      refine ⟨?_, advanced_last hnext⟩
      intro j acts sent hj hcourse
      obtain ⟨-, hsent, -⟩ := hcourse.underWay hj ha
      rw [hsent, ← (hcourse.staysApart hj ha).attemptCommands_eq]
      exact Queue.take_sends_all hnext

/-- What acts lead to after a queue was created. -/
def after (s : QueueSettings) (acts : List Act) : Option Journal :=
  match Queue.create s with
  | .ok q => run ⟨q, [], []⟩ acts
  | .error _ => none

theorem reachable_of_after {acts : List Act} (h : after s acts = some k) : Reachable s k := by
  unfold after at h
  split at h
  case h_1 q hcreate => exact (Reachable.fresh hcreate).run h
  case h_2 => cases h

/-- The group is there but cannot be put into position, and another attempt is made. -/
def triedAgain : List Act :=
  backAndForth ++ [.move (.prepared groupExists), .move (.prepared (.lost "connection closed")),
    .move .attemptBegan] ++ opening

/-- The other attempt fails as well, because the group cannot be created any more. -/
theorem triedAgain_fails :
    ∃ k, after { nodeId := "node" } triedAgain = some k ∧ k.queue.state = .reconnecting ∧
      k.queue.move (.prepared (.refused ⟨"WRONGTYPE", none⟩)) =
        some (k.queue.leftByFailure, []) ∧
      k.queue.leftByFailure.measurements.counter Queue.failedAttempts = 2 := by
  have hrun : (after { nodeId := "node" } triedAgain).map (fun k => (k.queue.attempt?,
      k.queue.firstAttempt.isSome, k.queue.fails (.prepared (.refused ⟨"WRONGTYPE", none⟩)),
      k.queue.measurements.counter Queue.failedAttempts)) =
      some (some (.creating (EntryId.of? 5 0)), false, true, 1) := by
    decide +kernel
  obtain ⟨k, hk, hparts⟩ := Option.map_eq_some_iff.mp hrun
  simp only [Prod.mk.injEq] at hparts
  obtain ⟨hattempt, hfirst, hfails, hcounter⟩ := hparts
  obtain ⟨-, -, hstate, -, hfailure, hcounts, -⟩ :=
    failed_attempt_changes_nothing (reachable_of_after hk) hattempt
  obtain ⟨f, q, hmove, hleft, -⟩ := hfailure _ hfails
  rw [hfirst] at hstate hleft
  refine ⟨k, hk, hstate, ?_, ?_⟩
  · rw [hmove, hleft]
    rfl
  · rw [hcounts, if_pos rfl, hcounter]
    rfl

end Journal
end CatalogReplica
