/-
# CatalogReplica.Queue.Calls.Steps -- what each call does, case by case

Calls are taken apart as moves are: `Calls q c q'` has a case for each thing that a call can
do, with what must be true for it, and `call_eq_some_iff` says that these are all. To publish
and to acknowledge changes a queue only when the command has had its outcome, so of these
two the second halves are here.
-/
import CatalogReplica.Queue.Calls

namespace CatalogReplica.Queue

/-- What callers do, and what becomes of what they have sent. -/
inductive Call where
  | receive
  | publishAnswered (o : Outcome)
  | ackAnswered (o : Outcome)
  | beginClose
  | finishClose
  | release

/-- The queue after a call, if the call can be made. -/
def call (q : Queue) : Call → Option Queue
  | .receive => some q.receive.2
  | .publishAnswered o => some (q.publishAnswered o).2
  | .ackAnswered o => some (q.ackAnswered o).2
  | .beginClose => q.beginClose
  | .finishClose => q.finishClose.map Prod.snd
  | .release => some q.release

/-- The queue once all tasks have ended, after these notices. -/
def closedAfter (q : Queue) (notices : List Notice) : Queue :=
  { q with notices := notices, isConnected := false, recovery := none }.enter .closed

variable {q q' : Queue} {o : Outcome}

/-- In `q` the call `c` can be made, and it leaves `q'`. -/
inductive Calls (q : Queue) : Call → Queue → Prop where
  | received {e : Event} (output : q.output = some e) :
      Calls q .receive { q with output := none }
  | receivedNothing (output : q.output = none) : Calls q .receive q
  | published {o : Outcome} {text : String} (answer : o.value "XADD" Reply.textLike? = .ok text) :
      Calls q (.publishAnswered o) (q.measure (.published q.settings.subject true))
  | notPublished {o : Outcome} {f : Failure} (answer : o.value "XADD" Reply.textLike? = .error f)
      (linked : f.isConnectionLost = false) :
      Calls q (.publishAnswered o) (q.measure (.published q.settings.subject false))
  | publishLost {o : Outcome} {f : Failure} (answer : o.value "XADD" Reply.textLike? = .error f)
      (lost : f.isConnectionLost = true) :
      Calls q (.publishAnswered o) ((q.measure (.published q.settings.subject false)).lose f)
  | acknowledged {o : Outcome} (answer : Consumer.acknowledged o = .ok ()) :
      Calls q (.ackAnswered o) (q.measure (.acknowledged q.consumer.streamKey true))
  | notAcknowledged {o : Outcome} {f : Failure} (answer : Consumer.acknowledged o = .error f)
      (linked : f.isConnectionLost = false) :
      Calls q (.ackAnswered o) (q.measure (.acknowledged q.consumer.streamKey false))
  | ackLost {o : Outcome} {f : Failure} (answer : Consumer.acknowledged o = .error f)
      (lost : f.isConnectionLost = true) :
      Calls q (.ackAnswered o) ((q.measure (.acknowledged q.consumer.streamKey false)).lose f)
  | closing (untold : q.isClosing = false) : Calls q .beginClose { q with isClosing := true }
  | closed (told : q.isClosing = true) (unclosed : q.state ≠ .closed) (idle : q.isIdle = true) :
      Calls q .finishClose (q.closedAfter (if q.recovery = some .broken
        then q.notices ++ [.taskFailedAtClose] ++ [.closedWithErrors] else q.notices))
  | released : Calls q .release q.release

/-! ## Receiving -/

theorem receive_eq_iff : q.receive.2 = q' ↔ q.Calls .receive q' := by
  constructor
  · rintro rfl
    unfold receive
    split
    · exact .received ‹_›
    · exact .receivedNothing ‹_›
  · intro h
    cases h with
    | received output | receivedNothing output => simp only [receive, output]

theorem call_of_receive {e : Event} (h : q.receive = (.item e, q')) :
    q.call .receive = some q' := by
  rw [call, h]

/-! ## Commands that were sent -/

theorem publishAnswered_eq_iff :
    (q.publishAnswered o).2 = q' ↔ q.Calls (.publishAnswered o) q' := by
  constructor
  · rintro rfl
    unfold publishAnswered
    split
    · exact .published ‹_›
    · dsimp only
      split
      · exact .publishLost ‹_› ‹_›
      · exact .notPublished ‹_› (Bool.eq_false_iff.mpr ‹_›)
  · intro h
    cases h with
    | published answer => simp only [publishAnswered, answer]
    | notPublished answer held | publishLost answer held => simp [publishAnswered, answer, held]

theorem ackAnswered_eq_iff : (q.ackAnswered o).2 = q' ↔ q.Calls (.ackAnswered o) q' := by
  constructor
  · rintro rfl
    unfold ackAnswered
    dsimp only
    split
    · rename_i answer
      rw [answer]
      exact .acknowledged answer
    · rename_i answer
      rw [answer]
      dsimp only
      split
      · exact .ackLost answer ‹_›
      · exact .notAcknowledged answer (Bool.eq_false_iff.mpr ‹_›)
  · intro h
    cases h with
    | acknowledged answer => simp only [ackAnswered, answer, Except.isOk, Except.toBool]
    | notAcknowledged answer held | ackLost answer held =>
      simp [ackAnswered, answer, held, Except.isOk, Except.toBool]

/-! ## Closing -/

theorem beginClose_eq_some_iff : q.beginClose = some q' ↔ q.Calls .beginClose q' := by
  constructor
  · intro h
    unfold beginClose at h
    split at h <;> cases h
    exact .closing (Bool.eq_false_iff.mpr ‹_›)
  · intro h
    cases h with
    | closing untold => simp [beginClose, untold]

theorem finishClose_eq_some_iff :
    q.finishClose.map Prod.snd = some q' ↔ q.Calls .finishClose q' := by
  have hfinish (told : q.isClosing = true) (unclosed : q.state ≠ .closed)
      (idle : q.isIdle = true) : q.finishClose.map Prod.snd = some (q.closedAfter
        (if q.recovery = some .broken then q.notices ++ [.taskFailedAtClose] ++ [.closedWithErrors]
          else q.notices)) := by
    by_cases hbroken : q.recovery = some .broken
    · simp [finishClose, told, unclosed, idle, taskFailures, hbroken, closedAfter, notify, enter,
        measure]
    · simp [finishClose, told, unclosed, idle, taskFailures, hbroken, closedAfter]
  constructor
  · intro h
    obtain ⟨result, hresult, -⟩ := Option.map_eq_some_iff.mp h
    unfold finishClose at hresult
    split at hresult
    case isFalse => cases hresult
    case isTrue hidle =>
      simp only [Bool.and_eq_true, decide_eq_true_eq] at hidle
      obtain ⟨⟨told, unclosed⟩, idle⟩ := hidle
      rw [hfinish told unclosed idle] at h
      cases h
      exact .closed told unclosed idle
  · intro h
    cases h with
    | closed told unclosed idle => exact hfinish told unclosed idle

/-! ## All calls -/

theorem call_eq_some_iff {c : Call} : q.call c = some q' ↔ q.Calls c q' := by
  cases c with
  | receive => exact Option.some_inj.trans receive_eq_iff
  | publishAnswered o => exact Option.some_inj.trans publishAnswered_eq_iff
  | ackAnswered o => exact Option.some_inj.trans ackAnswered_eq_iff
  | beginClose => exact beginClose_eq_some_iff
  | finishClose => exact finishClose_eq_some_iff
  | release =>
    constructor
    · rintro ⟨⟩
      exact .released
    · rintro ⟨⟩
      rfl

end CatalogReplica.Queue
