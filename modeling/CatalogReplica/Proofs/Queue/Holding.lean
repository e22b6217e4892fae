/-
# CatalogReplica.Proofs.Queue.Holding -- what a queue holds came from outside

A queue holds events in four places, and ids in three: the place from which it would
go on, and in an attempt to connect, of which there may be two. Whatever is true of
every entry that the service has shown is true of all of these, in every state that
the moves lead to: no move makes up an event or an id.
-/
import CatalogReplica.Proofs.EntryId.Order
import CatalogReplica.Proofs.Queue.Success
import Mathlib.Order.MinMax

namespace CatalogReplica

/-- The entry behind which an attempt to connect puts the group. -/
def Attempt.resume? : Attempt → Option EntryId
  | .creating resume => resume
  | .positioning resume => resume
  | _ => none

/-- All that an entry can be decoded into is known. -/
def Entry.Shown (Known : Event → Prop) (e : Entry) : Prop :=
  ∀ id change, e.decode = .ok (id, change) → Known ⟨id, change⟩

/-- A command names only ids that were seen, and it does not acknowledge. -/
def Command.Asks (Seen : EntryId → Prop) : Command → Prop
  | .position _ _ id => ∀ i ∈ id, Seen i
  | .acknowledge .. => False
  | _ => True

theorem Command.Asks.mono {Seen Seen' : EntryId → Prop} (hseen : ∀ id, Seen id → Seen' id)
    {c : Command} (h : c.Asks Seen) : c.Asks Seen' := by
  cases c with
  | position key node id => exact fun i hi => hseen i (h i hi)
  | acknowledge key node id => exact h
  | _ => trivial

namespace Queue

variable {Seen : EntryId → Prop} {Known : Event → Prop} {q : Queue}

/-- The ids that a queue holds were seen, and its events are known. -/
structure Holds (Seen : EntryId → Prop) (Known : Event → Prop) (q : Queue) : Prop where
  resume : ∀ id ∈ q.resume, Seen id
  first : ∀ a ∈ q.firstAttempt, ∀ id ∈ a.resume?, Seen id
  recovery : ∀ a, q.recovery = some (.connecting a) → ∀ id ∈ a.resume?, Seen id
  offering : ∀ e stopping, q.reader = some ⟨.offering e, stopping⟩ → Known e
  input : ∀ e ∈ q.input, Known e
  holding : ∀ e, q.forwarder = some (.holding e) → Known e
  output : ∀ e ∈ q.output, Known e

/-- What is seen and known may become more. -/
theorem Holds.mono {Seen' : EntryId → Prop} {Known' : Event → Prop} (h : q.Holds Seen Known)
    (hseen : ∀ id, Seen id → Seen' id) (hknown : ∀ e, Known e → Known' e) :
    q.Holds Seen' Known' where
  resume id hid := hseen id (h.resume id hid)
  first a ha id hid := hseen id (h.first a ha id hid)
  recovery a ha id hid := hseen id (h.recovery a ha id hid)
  offering e stopping he := hknown e (h.offering e stopping he)
  input e he := hknown e (h.input e he)
  holding e he := hknown e (h.holding e he)
  output e he := hknown e (h.output e he)

/-- Nothing has reached a queue, and it makes its first attempt to connect. -/
structure IsNew (q : Queue) : Prop where
  resume : q.resume = none
  first : q.firstAttempt = some .opening
  recovery : q.recovery = none
  reader : q.reader = none
  input : q.input = none
  holding : ∀ e, q.forwarder ≠ some (.holding e)
  output : q.output = none

/-- Whatever settings are accepted, the queue that is made with them starts empty. -/
theorem isNew_of_create {s : QueueSettings} (hcreate : Queue.create s = .ok q) : q.IsNew := by
  obtain ⟨consumer, limit, -, rfl⟩ := Queue.eq_of_create hcreate
  refine ⟨rfl, rfl, rfl, rfl, rfl, ?_, rfl⟩
  intro e he
  simp at he

theorem IsNew.holds (h : q.IsNew) : q.Holds Seen Known where
  resume id hid := by
    rw [h.resume] at hid
    cases hid
  first a ha id hid := by
    rw [h.first] at ha
    cases ha
    cases hid
  recovery a ha := by
    rw [h.recovery] at ha
    cases ha
  offering e stopping he := by
    rw [h.reader] at he
    cases he
  input e he := by
    rw [h.input] at he
    cases he
  holding e he := absurd he (h.holding e)
  output e he := by
    rw [h.output] at he
    cases he

/-! ## Small changes -/

theorem Holds.measure (h : q.Holds Seen Known) (m : Measurement) :
    (q.measure m).Holds Seen Known := { h with }

theorem Holds.notify (h : q.Holds Seen Known) (n : Notice) : (q.notify n).Holds Seen Known :=
  { h with }

theorem Holds.goOn (h : q.Holds Seen Known) {a : Attempt} (ha : ∀ id ∈ a.resume?, Seen id) :
    (q.goOn a).Holds Seen Known := by
  unfold Queue.goOn
  split
  · refine { h with first := ?_ }
    intro b hb
    cases hb
    exact ha
  · refine { h with recovery := ?_ }
    intro b hb
    cases hb
    exact ha

theorem Holds.readerAt (h : q.Holds Seen Known) (r : Reader) {stage : ReaderStage}
    (hstage : ∀ e, stage = .offering e → Known e) : (q.readerAt r stage).Holds Seen Known := by
  refine { h with offering := ?_ }
  intro e stopping he
  cases he
  exact hstage e rfl

theorem Holds.lose (h : q.Holds Seen Known) (f : Failure) : (q.lose f).Holds Seen Known := by
  unfold Queue.lose
  split
  · exact h
  · refine { h with recovery := ?_ }
    intro a ha
    cases ha

/-! ## Connecting -/

theorem Holds.attemptFailed (h : q.Holds Seen Known) (f : Failure) :
    (q.attemptFailed f).Holds Seen Known := by
  unfold Queue.attemptFailed
  dsimp only
  split
  · -- the first attempt; its end starts a recovery
    have hnone : ({ q.measure (.connectionAttempt false) with firstAttempt := none } :
        Queue).Holds Seen Known := by
      refine { h with first := ?_ }
      intro a ha
      cases ha
    exact (hnone.notify .firstConnectionFailed).lose f
  · refine { h with recovery := ?_ }
    intro a ha
    cases ha

theorem Holds.attemptSucceeded (h : q.Holds Seen Known) :
    q.attemptSucceeded.Holds Seen Known := by
  unfold Queue.attemptSucceeded
  dsimp only
  split
  · refine { h with first := ?_, recovery := ?_ }
    · intro a ha
      cases ha
    · intro a ha
      cases ha
  · refine { h with first := ?_, recovery := ?_, offering := ?_ }
    · intro a ha
      cases ha
    · intro a ha
      cases ha
    · intro e stopping he
      simp only [Queue.enter, Queue.measure] at he
      cases hwrite : q.settings.writeOnly with
      | true => simp [hwrite] at he
      | false => simp [hwrite] at he

/-- The attempt under way knows only of ids that were seen. -/
theorem Holds.attempt (h : q.Holds Seen Known) {a : Attempt} (ha : q.attempt? = some a) :
    ∀ id ∈ a.resume?, Seen id := by
  unfold Queue.attempt? at ha
  split at ha
  · rename_i hfirst
    cases ha
    exact h.first a hfirst
  · rename_i hrecovery
    cases ha
    exact h.recovery a hrecovery
  · cases ha

/-! ## Reading -/

/-- An event that comes is known, and so is the place that it moves to. -/
theorem Holds.entryCame (hseen : ∀ e, Known e → Seen e.id) (h : q.Holds Seen Known) (r : Reader)
    {e : Entry} (he : e.Shown Known) : (q.entryCame r e).Holds Seen Known := by
  unfold Queue.entryCame
  dsimp only
  split
  · have hbetween : (q.readerAt r .between).Holds Seen Known :=
      h.readerAt r fun e he => by cases he
    exact (hbetween.notify _).measure _
  · rename_i id change hdecode
    have hknown : Known ⟨id, change⟩ := he id change hdecode
    have hoffering : (q.readerAt r (.offering ⟨id, change⟩)).Holds Seen Known :=
      h.readerAt r fun e he => by cases he; exact hknown
    refine { hoffering with resume := ?_ }
    intro i hi
    -- the later of two ids is one of the two
    cases hlast : q.resume with
    | none =>
      simp only [Queue.measure, Queue.readerAt, hlast] at hi
      cases hi
      exact hseen _ hknown
    | some last =>
      simp only [Queue.measure, Queue.readerAt, hlast, EntryId.max_eq] at hi
      cases hi
      rcases max_choice last id with hmax | hmax
      · rw [hmax]
        exact h.resume last hlast
      · rw [hmax]
        exact hseen _ hknown

theorem Holds.withoutReader (h : q.Holds Seen Known) :
    ({ q with reader := none } : Queue).Holds Seen Known := by
  refine { h with offering := ?_ }
  intro e stopping he
  cases he

theorem Holds.readerFailed (h : q.Holds Seen Known) (f : Failure) :
    (q.readerFailed f).Holds Seen Known := h.withoutReader.lose f

/-- A claim that was answered moves the cursor, which is no id that the queue holds. -/
theorem Holds.withConsumer (h : q.Holds Seen Known) (k : Consumer) :
    ({ q with consumer := k } : Queue).Holds Seen Known := { h with }

/-! ## Passing events on -/

theorem Holds.handOn (h : q.Holds Seen Known) {held : Event} {stopping : Bool}
    (hreader : q.reader = some ⟨.offering held, stopping⟩) :
    ({ q with reader := some ⟨.between, stopping⟩, input := some held } : Queue).Holds
      Seen Known := by
  refine { h with offering := ?_, input := ?_ }
  · intro e stopping he
    cases he
  · intro e he
    cases he
    exact h.offering held stopping hreader

theorem Holds.take (h : q.Holds Seen Known) {held : Event} (hinput : q.input = some held) :
    ({ q with forwarder := some (.holding held), input := none } : Queue).Holds Seen Known := by
  refine { h with input := ?_, holding := ?_ }
  · intro e he
    cases he
  · intro e he
    cases he
    exact h.input held hinput

theorem Holds.putOut (h : q.Holds Seen Known) {held : Event}
    (hforwarder : q.forwarder = some (.holding held)) :
    ({ q with forwarder := some .waiting, output := some held } : Queue).Holds Seen Known := by
  refine { h with holding := ?_, output := ?_ }
  · intro e he
    cases he
  · intro e he
    cases he
    exact h.holding held hforwarder

theorem Holds.withoutForwarder (h : q.Holds Seen Known) :
    ({ q with forwarder := none, input := none } : Queue).Holds Seen Known := by
  refine { h with input := ?_, holding := ?_ }
  · intro e he
    cases he
  · intro e he
    cases he

/-! ## Recovering -/

/-- A recovery that knows of no id. -/
theorem Holds.withRecovery (h : q.Holds Seen Known) {t : Option Recovery}
    (ht : ∀ a, t = some (.connecting a) → a = .opening) :
    ({ q with recovery := t } : Queue).Holds Seen Known := by
  refine { h with recovery := ?_ }
  intro a ha id hid
  rw [ht a ha] at hid
  cases hid

/-- A reader that is told to stop still holds its event. -/
theorem Holds.tellReader (h : q.Holds Seen Known) : ({ q with
    reader := q.reader.map fun r => { r with isStopping := true } } : Queue).Holds
      Seen Known := by
  refine { h with offering := ?_ }
  intro e stopping he
  obtain ⟨⟨stage, isStopping⟩, hr, hsame⟩ := Option.map_eq_some_iff.mp he
  cases hsame
  exact h.offering e isStopping hr

/-! ## Moves -/

/-- What a task learns from the outcome that a move reports is known. -/
def Move.Tells (Known : Event → Prop) : Move → Prop
  | .claimAnswered o => ∀ (c c' : Consumer) e, c.claimed o = .ok (some e, c') → e.Shown Known
  | .readAnswered o => ∀ e, Consumer.read o = .ok (some e) → e.Shown Known
  | _ => True

theorem Move.Tells.mono {Known' : Event → Prop} {m : Move} (h : m.Tells Known)
    (hmore : ∀ e, Known e → Known' e) : m.Tells Known' := by
  cases m with
  | claimAnswered o =>
    intro c c' e he id change hdecode
    exact hmore _ (h c c' e he id change hdecode)
  | readAnswered o =>
    intro e he id change hdecode
    exact hmore _ (h e he id change hdecode)
  | _ => trivial

/-- The queue holds what is known, and the commands ask for what was seen. -/
def Effect.Lawful (Seen : EntryId → Prop) (Known : Event → Prop) (e : Effect) : Prop :=
  e.1.Holds Seen Known ∧ ∀ c ∈ e.2, c.Asks Seen

theorem Holds.silent (h : q.Holds Seen Known) : Effect.Lawful Seen Known (q, []) := by
  refine ⟨h, fun c hc => ?_⟩
  cases hc

theorem Holds.sends (h : q.Holds Seen Known) {c : Command} (hc : c.Asks Seen) :
    Effect.Lawful Seen Known (q, [c]) := by
  refine ⟨h, fun d hd => ?_⟩
  rw [List.mem_singleton.mp hd]
  exact hc

/-- No move makes up an event or an id. -/
theorem Holds.move (hseen : ∀ e, Known e → Seen e.id) (h : q.Holds Seen Known) {m : Move}
    (hm : m.Tells Known) {e : Effect} (hmove : q.move m = some e) : e.Lawful Seen Known := by
  cases move_eq_some_iff.mp hmove with
  | openedOnly | positioned => exact h.attemptSucceeded.silent
  | openedFirst => exact (h.goOn fun id hid => by cases hid).silent
  | openedSecond =>
    have hresume : ∀ id ∈ (Attempt.creating q.resume).resume?, Seen id := h.resume
    exact (h.goOn hresume).sends trivial
  | @created _ resume attempt =>
    -- the group goes to the place that was noted when the attempt created it
    have hnoted : ∀ id ∈ (Attempt.creating resume).resume?, Seen id := h.attempt attempt
    have hresume : ∀ id ∈ (Attempt.positioning resume).resume?, Seen id := hnoted
    exact (h.goOn hresume).sends hresume
  | openFailed | notCreated | notPositioned | timedOut => exact (h.attemptFailed _).silent
  | asked => exact (h.readerAt _ fun e he => by cases he).sends trivial
  | claimFailed | readFailed => exact (h.readerFailed _).silent
  | claimed _ _ answer =>
    exact ((h.withConsumer _).entryCame hseen _ (hm _ _ _ answer)).silent
  | claimedNothing =>
    exact ((h.withConsumer _).readerAt _ fun e he => by cases he).sends trivial
  | read _ _ answer => exact (h.entryCame hseen _ (hm _ answer)).silent
  | readNothing => exact (h.readerAt _ fun e he => by cases he).silent
  | handedOn reader => exact (h.handOn reader).silent
  | readerStopped => exact h.withoutReader.silent
  | took _ input => exact (h.take input).silent
  | put forwarder => exact (h.putOut forwarder).silent
  | forwarderStopped => exact h.withoutForwarder.silent
  | recoveryBegan =>
    have hrecovery : ({ q with recovery := some .stoppingReader } : Queue).Holds Seen Known :=
      h.withRecovery fun a ha => by cases ha
    exact Holds.silent { hrecovery.tellReader with }
  | scheduled uptime =>
    refine (h.withRecovery fun a ha => ?_).silent
    split at ha <;> cases ha
  | attemptBegan => exact (h.withRecovery fun a ha => by cases ha; rfl).silent
  | recoveryStopped => exact (h.withRecovery fun a ha => by cases ha).silent

/-! ## Calls -/

/-- No call makes up an event or an id. -/
theorem Holds.call (h : q.Holds Seen Known) {c : Call} {q' : Queue} (hcall : q.call c = some q') :
    q'.Holds Seen Known := by
  cases call_eq_some_iff.mp hcall with
  | received =>
    refine { h with output := ?_ }
    intro e he
    cases he
  | receivedNothing => exact h
  | published | notPublished | acknowledged | notAcknowledged => exact h.measure _
  | publishLost | ackLost => exact (h.measure _).lose _
  | closing => exact { h with }
  | closed =>
    have hrecovery : ({ q with recovery := none } : Queue).Holds Seen Known :=
      h.withRecovery fun a ha => by cases ha
    exact { hrecovery with }
  | released => exact { h with }

/-- What is received was known. -/
theorem Holds.known_of_receive (h : q.Holds Seen Known) {e : Event} {q' : Queue}
    (hreceive : q.receive = (.item e, q')) : Known e := by
  unfold Queue.receive at hreceive
  split at hreceive
  · rename_i held houtput
    cases hreceive
    exact h.output e houtput
  · split at hreceive <;> cases hreceive

theorem asks_publish {c : Change} {now : Timestamp} {command : Command}
    (hpublish : q.publish c now = .ok command) : command.Asks Seen := by
  rw [publish_eq_ok hpublish]
  exact trivial

/-- An acknowledgement names the event's own entry. -/
theorem acknowledge_eq_ok {id : EntryId} {command : Command}
    (hack : q.acknowledge id = .ok command) : command = q.consumer.ackCommand id := by
  unfold Queue.acknowledge at hack
  split at hack
  · cases hack
  · split at hack
    · cases hack
      rfl
    · cases hack

end Queue
end CatalogReplica
