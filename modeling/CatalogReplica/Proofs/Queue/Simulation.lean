/-
# CatalogReplica.Proofs.Queue.Simulation -- a queue does what its crew does

Until it is told to end, a crew has at most one recovery and one reader, a loss has been
reported exactly when there is a recovery, and the recovery takes every reader out of the
slot. So nothing is lost by the one place that a `Queue` has for each of them: a move is
possible for the queue exactly when it is possible for the crew, and has the same effect.
-/
import CatalogReplica.Proofs.Queue.Phases
import CatalogReplica.Queue.Moves.Steps
import CatalogReplica.Queue.Calls.Steps

namespace CatalogReplica.Crew

variable {c : Crew}

/-! ## The places of a queue -/

theorem isEnding_eq_false_iff :
    c.isEnding = false ↔ c.isClosing = false ∧ c.isReleased = false := by
  simp [isEnding]

/-- A crew that is not told to end, with at most one recovery and one reader. -/
structure Plain (c : Crew) : Prop where
  opened : c.isClosing = false
  owned : c.isReleased = false
  reported : c.isLossReported = c.recoveries.head?.isSome
  single : c.readers.length ≤ 1
  recoveries_le : c.recoveries.length ≤ 1

theorem Sound.plain (h : Sound c.cells) (hon : c.isEnding = false) : c.Plain := by
  obtain ⟨hopen, howned⟩ := isEnding_eq_false_iff.mp hon
  refine ⟨hopen, howned, ?_, ?_, h.phase.recoveries_le⟩
  · cases h.phase with
    | starting _ _ _ unreported unrecovered =>
      rw [show c.isLossReported = false from unreported, show c.recoveries = [] from unrecovered]
      rfl
    | linked _ _ _ unreported unrecovered =>
      rw [show c.isLossReported = false from unreported, show c.recoveries = [] from unrecovered]
      rfl
    | recovering r recovering =>
      rw [show c.isLossReported = true from recovering.reported,
        show c.recoveries = [r] from recovering.recovery]
      rfl
    | stopped _ _ _ _ _ _ released =>
      rw [show c.isReleased = true from released] at howned
      cases howned
    | closing _ _ closing =>
      rw [show c.isClosing = true from closing] at hopen
      cases hopen
  · have hsingle := h.single
    rw [show c.cells.roster = c.readers.map ReadingTask.tag from rfl, List.length_map] at hsingle
    exact hsingle

theorem queue_recovery (c : Crew) :
    c.queue.recovery = c.recoveries[0]?.map RecoveryTask.plain := by
  rw [← List.head?_eq_getElem?]
  rfl

/-- What a queue shows in the place of the reader. -/
theorem reader_shown_iff {r : Reader} :
    c.queue.reader = some r ↔ ∃ t, c.readers[0]? = some t ∧ t.plain = r := by
  rw [← Option.map_eq_some_iff, ← List.head?_eq_getElem?]
  rfl

theorem recovery_shown_iff {r : Recovery} :
    c.queue.recovery = some r ↔ ∃ t, c.recoveries[0]? = some t ∧ t.plain = r := by
  rw [queue_recovery, Option.map_eq_some_iff]

theorem queue_firstAttempt (c : Crew) : c.queue.firstAttempt = c.firstAttempt := rfl

/-! ## Small changes -/

theorem queue_lose (hreported : c.isLossReported = c.recoveries.head?.isSome) (f : Failure) :
    (c.lose f).queue = c.queue.lose f := by
  have hplace : c.queue.recovery.isSome = c.isLossReported := by
    rw [hreported]
    exact Option.isSome_map
  unfold lose Queue.lose
  rw [hplace]
  by_cases hclosed : (c.isClosing || c.isLossReported) = true
  · rw [if_pos hclosed, if_pos (show (c.queue.isClosing || _) = true from hclosed)]
  · rw [if_neg hclosed, if_neg (show ¬ (c.queue.isClosing || _) = true from hclosed)]
    have hrecovered : c.recoveries = [] := by
      rw [Bool.or_eq_true, not_or, hreported] at hclosed
      simpa using hclosed.2
    have hhead : (c.recoveries ++ [RecoveryTask.started]).head? = some .started := by
      rw [hrecovered]
      rfl
    show ({ ((c.queue.notify .connectionLost).measure (.connectionLost (Queue.lossLabel f))).enter
        .reconnecting with
      recovery := (c.recoveries ++ [RecoveryTask.started]).head?.map RecoveryTask.plain } : Queue) =
        _
    rw [hhead]
    rfl

theorem queue_attempt? (c : Crew) : c.queue.attempt? = c.attempt? 0 := by
  unfold attempt? Queue.attempt?
  rw [queue_firstAttempt, queue_recovery]
  cases c.firstAttempt with
  | some a => rfl
  | none =>
    cases c.recoveries[0]? with
    | none => rfl
    | some r => cases r <;> rfl

theorem attempt_shown_iff {a : Attempt} :
    c.queue.attempt? = some a ↔ c.attempt? 0 = some a := by
  rw [queue_attempt?]

theorem head_set {α : Type} {tasks : List α} {t : α} (ht : tasks[0]? = some t) (t' : α) :
    (tasks.set 0 t').head? = some t' := by
  rw [List.head?_eq_getElem?, List.getElem?_set_self', ht]
  rfl

/-- The first recovery is the one that a queue has a place for. -/
theorem head_set_recovery {r : RecoveryTask} (hr : c.recoveries[0]? = some r) (r' : RecoveryTask) :
    ({ c with recoveries := c.recoveries.set 0 r' } : Crew).queue =
      { c.queue with recovery := some r'.plain } := by
  show ({ c.queue with recovery := (c.recoveries.set 0 r').head?.map _ } : Queue) = _
  rw [head_set hr]
  rfl

theorem queue_goOn {a : Attempt} (ha : c.attempt? 0 = some a) (b : Attempt) :
    (c.goOn 0 b).queue = c.queue.goOn b := by
  unfold goOn Queue.goOn
  split
  case h_1 hfirst =>
    split
    case h_1 => rfl
    case h_2 hcreated => exact absurd (hfirst.symm.trans hcreated) (by simp)
  case h_2 hcreated =>
    split
    case h_1 hfirst => exact absurd (hfirst.symm.trans hcreated) (by simp)
    case h_2 => exact head_set_recovery (connecting_of_attempt ha hcreated) _

/-! ## Connecting -/

theorem queue_attemptFailed (h : c.Plain) {a : Attempt} (ha : c.attempt? 0 = some a)
    (f : Failure) : (c.attemptFailed 0 f).queue = c.queue.attemptFailed f := by
  unfold attemptFailed Queue.attemptFailed
  dsimp only
  split
  case h_1 hfirst =>
    split
    case h_1 =>
      refine queue_lose ?_ f
      exact h.reported
    case h_2 hcreated => exact absurd (hfirst.symm.trans hcreated) (by simp)
  case h_2 hcreated =>
    split
    case h_1 hfirst => exact absurd (hfirst.symm.trans hcreated) (by simp)
    case h_2 =>
      have hconnecting := connecting_of_attempt ha hcreated
      exact congrArg (fun q : Queue => (q.measure _).notify _)
        (head_set_recovery hconnecting .waiting)

/-- What is left of the recoveries when an attempt has succeeded. -/
theorem attemptOver_recoveries (h : Sound c.cells) (hon : c.isEnding = false) {a : Attempt}
    (ha : c.attempt? 0 = some a) :
    (c.attemptOver 0).recoveries = [] ∧ (c.attemptOver 0).readers = [] := by
  have hover := over_attemptOver h ha
  obtain ⟨hrecovered, hunread, -⟩ := hover.idle (isEnding_eq_false_iff.mp hon).1
  exact ⟨hrecovered, List.map_eq_nil_iff.mp (hover.roster.trans hunread)⟩

theorem attemptOver_queue (h : Sound c.cells) (hon : c.isEnding = false) {a : Attempt}
    (ha : c.attempt? 0 = some a) :
    (c.attemptOver 0).queue = { c.queue with firstAttempt := none, recovery := none } := by
  obtain ⟨hrecovered, -⟩ := attemptOver_recoveries h hon ha
  have hplace : (c.attemptOver 0).queue =
      { (c.attemptOver 0).queue with recovery := none } := by
    simp [queue, hrecovered]
  rw [hplace]
  unfold attemptOver
  split
  case h_1 => rfl
  case h_2 hcreated => simp [queue, hcreated]

theorem queue_attemptSucceeded (h : Sound c.cells) (hon : c.isEnding = false) {a : Attempt}
    (ha : c.attempt? 0 = some a) : (c.attemptSucceeded 0).queue = c.queue.attemptSucceeded := by
  obtain ⟨hopen, -⟩ := isEnding_eq_false_iff.mp hon
  have hover := attemptOver_queue (c := c.measure (.connectionAttempt true)) h hon ha
  obtain ⟨-, hunread⟩ := attemptOver_recoveries (c := c.measure (.connectionAttempt true)) h hon ha
  unfold attemptSucceeded
  generalize (c.measure (.connectionAttempt true)).attemptOver 0 = c' at hover hunread ⊢
  have hopen' : c'.isClosing = false := (congrArg Queue.isClosing hover).trans hopen
  have hsettings : c'.settings = c.settings := congrArg Queue.settings hover
  -- both sides go on from the queue of `c'`
  have hqueue : c.queue.attemptSucceeded =
      { c'.queue with
        isConnected := true
        reader := if c.settings.writeOnly then none else some ⟨.between, false⟩ }.enter
        .connected := by
    rw [hover]
    unfold Queue.attemptSucceeded
    exact if_neg (Bool.eq_false_iff.mp hopen)
  rw [hqueue]
  dsimp only
  rw [if_neg (Bool.eq_false_iff.mp hopen'), hsettings]
  split
  case isTrue =>
    show ({ c'.queue with isConnected := true } : Queue).enter .connected = _
    simp [queue, hunread]
  case isFalse =>
    simp [queue, startReader, readersTold, link, enter, measure, Queue.enter, Queue.measure,
      hunread, ReadingTask.plain, Stage.plain]

/-! ## Reading -/

/-- The first reader is the one that a queue has a place for. -/
theorem head_set_reader {r : ReadingTask} (hr : c.readers[0]? = some r) (r' : ReadingTask) :
    ({ c with readers := c.readers.set 0 r' } : Crew).queue =
      { c.queue with reader := some r'.plain } := by
  show ({ c.queue with reader := (c.readers.set 0 r').head?.map _ } : Queue) = _
  rw [head_set hr]
  rfl

theorem Stage.plain_eq_between {s : Stage} : s.plain = .between ↔ s = .between := by
  cases s <;> simp [Stage.plain]

theorem Stage.plain_eq_claiming {s : Stage} : s.plain = .claiming ↔ s = .claiming := by
  cases s <;> simp [Stage.plain]

theorem Stage.plain_eq_reading {s : Stage} : s.plain = .reading ↔ s = .reading := by
  cases s <;> simp [Stage.plain]

/-- A reader shows the stage that it is at. -/
theorem plain_stage {r : ReadingTask} {s : Stage} (h : r.stage = s) : r.plain.stage = s.plain :=
  congrArg Stage.plain h

theorem queue_readerAt {r : ReadingTask} (hr : c.readers[0]? = some r) (stage : Stage) :
    (c.readerAt 0 r stage).queue = c.queue.readerAt r.plain stage.plain :=
  head_set_reader hr { r with stage := stage }

/-- The only reader ends. -/
theorem erase_reader (h : c.Plain) : c.readers.eraseIdx 0 = [] := by
  rw [List.eraseIdx_zero]
  apply List.length_eq_zero_iff.mp
  rw [List.length_tail]
  exact Nat.sub_eq_zero_of_le h.single

theorem queue_entryCame {r : ReadingTask} (hr : c.readers[0]? = some r) (e : Entry) :
    (c.entryCame 0 r e).queue = c.queue.entryCame r.plain e := by
  unfold entryCame Queue.entryCame
  dsimp only
  cases e.decode with
  | error f =>
    exact congrArg (fun q : Queue => (q.notify .entryDropped).measure
      (.undecodable c.consumer.streamKey)) (queue_readerAt hr .between)
  | ok read =>
    obtain ⟨id, change⟩ := read
    have hread : (c.readerAt 0 r (.offering ⟨c.readings.length, ⟨id, change⟩⟩)).queue =
        c.queue.readerAt r.plain (.offering ⟨id, change⟩) := queue_readerAt hr _
    dsimp only
    rw [← hread]
    rfl

theorem queue_readerFailed (h : c.Plain) (f : Failure) :
    (c.readerFailed 0 f).queue = c.queue.readerFailed f := by
  unfold readerFailed Queue.readerFailed
  rw [queue_lose (c := { c with readers := c.readers.eraseIdx 0 }) h.reported, erase_reader h]
  rfl

theorem queue_readerStopped (h : c.Plain) (stopped : List Nat) :
    ({ c with readers := c.readers.eraseIdx 0, stopped := stopped } : Crew).queue =
      { c.queue with reader := none } := by
  rw [erase_reader h]
  rfl

/-- The reader hands on what it has to offer. -/
theorem queue_handedOn {k : Nat} {n : Numbered} {stopping : Bool}
    (hr : c.readers[0]? = some ⟨k, .offering n, stopping⟩) :
    ({ c with readers := c.readers.set 0 ⟨k, .between, stopping⟩, input := some n } : Crew).queue =
      { c.queue with reader := some ⟨.between, stopping⟩, input := some n.event } :=
  congrArg (fun q : Queue => { q with input := some n.event })
    (head_set_reader hr ⟨k, .between, stopping⟩)

/-! ## Recovering -/

/-- The readers are all in the slot when a recovery begins, so all are told to stop. -/
theorem readersTold_of_started (h : Recovering c.cells .started) :
    c.readersTold = c.readers.map fun r => { r with isStopping := true } := by
  apply List.map_congr_left
  intro r hr
  exact if_pos (h.left r.tag (List.mem_map_of_mem hr)).1

/-- Until the crew closes, a recovery is that of the phase `recovering`. -/
theorem recovering_of_head (h : Sound c.cells) (hon : c.isEnding = false) {r : RecoveryTask}
    (hr : c.recoveries[0]? = some r) : Recovering c.cells r := by
  rcases h.phase.recovering_or_closing hr with ⟨-, hrecovering⟩ | hclosing
  · exact hrecovering
  · rw [show c.cells.isClosing = false from (isEnding_eq_false_iff.mp hon).1] at hclosing
    cases hclosing

theorem queue_recoveryBegan (h : Sound c.cells) (hon : c.isEnding = false)
    (hr : c.recoveries[0]? = some .started) :
    ({ c with
      isConnected := false
      readers := c.readersTold
      recoveries := c.recoveries.set 0 (.joining c.slot)
      slot := none } : Crew).queue =
      { c.queue with
        isConnected := false
        reader := c.queue.reader.map fun r => { r with isStopping := true }
        recovery := some .stoppingReader } := by
  have htold := readersTold_of_started (recovering_of_head h hon hr)
  have hhead := head_set hr (.joining c.slot)
  simp [queue, htold, hhead, RecoveryTask.plain, ReadingTask.plain, Function.comp_def]

theorem queue_scheduled {r : RecoveryTask} (hr : c.recoveries[0]? = some r) (uptime : Nat) :
    ({ c with
      recoveries := c.recoveries.set 0
        (if Queue.isSchedulable c.settings uptime then .waiting else .broken) } : Crew).queue =
      { c.queue with
        recovery := some
          (if Queue.isSchedulable c.settings uptime then .waiting else .broken) } := by
  rw [head_set_recovery hr]
  split <;> rfl

/-- What the recovery waits for is over exactly when the queue shows no reader. -/
theorem all_isOver_iff_shown (h : Sound c.cells) (hon : c.isEnding = false) {reader : Option Nat}
    (hr : c.recoveries[0]? = some (.joining reader)) :
    reader.all c.isOver = true ↔ c.queue.reader = none := by
  rw [all_isOver_iff (recovering_of_head h hon hr)]
  simp [queue]

/-! ## All moves -/

/-- What a queue shows of a step of its crew. -/
def shown (e : Effect) : Queue.Effect := (e.1.queue, e.2)

theorem moves_shown {q q' : Queue} {m : Queue.Move} {c' : Crew} {commands : List Command}
    (hqueue : c'.queue = q') (moves : q.Moves m (q', commands)) :
    q.Moves m (shown (c', commands)) := by
  subst hqueue
  exact moves

section Moving

variable {m : Queue.Move} {e : Effect}

/-- What the first tasks of a crew do, the queue does. -/
theorem Moves.mirrored (h : Sound c.cells) (hon : c.isEnding = false) (moves : c.Moves 0 m e) :
    c.queue.Moves m (shown e) := by
  have hplain := h.plain hon
  have hattempt {a : Attempt} : c.attempt? 0 = some a → c.queue.attempt? = some a :=
    attempt_shown_iff.mpr
  have hreader {t : ReadingTask} (reader : c.readers[0]? = some t) :
      c.queue.reader = some t.plain := reader_shown_iff.mpr ⟨t, reader, rfl⟩
  have hrecovery {t : RecoveryTask} (recovery : c.recoveries[0]? = some t) :
      c.queue.recovery = some t.plain := recovery_shown_iff.mpr ⟨t, recovery, rfl⟩
  have hforwarder {f : ForwardingTask} : c.forwarder = some f → c.queue.forwarder = some f.plain :=
    congrArg (Option.map ForwardingTask.plain)
  have hevent {n : Option Numbered} {n' : Option Numbered} (place : n = n') :
      n.map Numbered.event = n'.map Numbered.event := congrArg _ place
  cases moves with
  | openedOnly attempt publishes =>
    exact moves_shown (queue_attemptSucceeded h hon attempt)
      (.openedOnly (hattempt attempt) publishes)
  | openedFirst attempt reads =>
    exact moves_shown (queue_goOn attempt _) (.openedFirst (hattempt attempt) reads)
  | openedSecond attempt =>
    exact moves_shown (queue_goOn attempt _) (.openedSecond (hattempt attempt))
  | openFailed reason attempt =>
    have hfailed : ∀ f, (c.attemptFailed 0 f).queue = c.queue.attemptFailed f :=
      attempt.elim (queue_attemptFailed hplain) (queue_attemptFailed hplain)
    exact moves_shown (hfailed _) (.openFailed reason (attempt.imp hattempt hattempt))
  | created attempt answer =>
    exact moves_shown (queue_goOn attempt _) (.created (hattempt attempt) answer)
  | notCreated attempt answer =>
    exact moves_shown (queue_attemptFailed hplain attempt _) (.notCreated (hattempt attempt) answer)
  | positioned attempt answer =>
    exact moves_shown (queue_attemptSucceeded h hon attempt) (.positioned (hattempt attempt) answer)
  | notPositioned attempt answer =>
    exact moves_shown (queue_attemptFailed hplain attempt _)
      (.notPositioned (hattempt attempt) answer)
  | timedOut attempt =>
    exact moves_shown (queue_attemptFailed hplain attempt _) (.timedOut (hattempt attempt))
  | asked reader stage =>
    exact moves_shown (queue_readerAt reader _) (.asked (hreader reader) (plain_stage stage))
  | claimFailed reader stage answer =>
    exact moves_shown (queue_readerFailed hplain _)
      (.claimFailed (hreader reader) (plain_stage stage) answer)
  | @claimed _ _ x k reader stage answer =>
    exact moves_shown (queue_entryCame (c := { c with consumer := k }) reader x)
      (.claimed (hreader reader) (plain_stage stage) answer)
  | @claimedNothing _ _ k reader stage answer =>
    exact moves_shown (queue_readerAt (c := { c with consumer := k }) reader .reading)
      (.claimedNothing (hreader reader) (plain_stage stage) answer)
  | readFailed reader stage answer =>
    exact moves_shown (queue_readerFailed hplain _)
      (.readFailed (hreader reader) (plain_stage stage) answer)
  | read reader stage answer =>
    exact moves_shown (queue_entryCame reader _) (.read (hreader reader) (plain_stage stage) answer)
  | readNothing reader stage answer =>
    exact moves_shown (queue_readerAt reader _)
      (.readNothing (hreader reader) (plain_stage stage) answer)
  | handedOn reader input forwarder =>
    exact moves_shown (queue_handedOn reader)
      (.handedOn (hreader reader) (hevent input) (hforwarder forwarder))
  | readerStopped reader told =>
    exact moves_shown (queue_readerStopped hplain _) (.readerStopped (hreader reader) told)
  | took forwarder input => exact moves_shown rfl (.took (hforwarder forwarder) (hevent input))
  | put forwarder output => exact moves_shown rfl (.put (hforwarder forwarder) (hevent output))
  | forwarderStopped _ told | recoveryStopped told => cases hon.symm.trans told
  | recoveryBegan recovery =>
    exact moves_shown (queue_recoveryBegan h hon recovery) (.recoveryBegan (hrecovery recovery))
  | scheduled uptime recovery ended =>
    exact moves_shown (queue_scheduled recovery uptime)
      (.scheduled uptime (hrecovery recovery) ((all_isOver_iff_shown h hon recovery).mp ended))
  | attemptBegan recovery =>
    exact moves_shown (head_set_recovery recovery _) (.attemptBegan (hrecovery recovery))

/-- What a queue can do, the first tasks of its crew can do. -/
theorem enabled_of_moves (h : Sound c.cells) (hon : c.isEnding = false) {e : Queue.Effect}
    (moves : c.queue.Moves m e) : ∃ e', c.Moves 0 m e' := by
  have hattempt {a : Attempt} : c.queue.attempt? = some a → c.attempt? 0 = some a :=
    attempt_shown_iff.mp
  cases moves with
  | openedOnly attempt publishes => exact ⟨_, .openedOnly (hattempt attempt) publishes⟩
  | openedFirst attempt reads => exact ⟨_, .openedFirst (hattempt attempt) reads⟩
  | openedSecond attempt => exact ⟨_, .openedSecond (hattempt attempt)⟩
  | openFailed reason attempt => exact ⟨_, .openFailed reason (attempt.imp hattempt hattempt)⟩
  | created attempt answer => exact ⟨_, .created (hattempt attempt) answer⟩
  | notCreated attempt answer => exact ⟨_, .notCreated (hattempt attempt) answer⟩
  | positioned attempt answer => exact ⟨_, .positioned (hattempt attempt) answer⟩
  | notPositioned attempt answer => exact ⟨_, .notPositioned (hattempt attempt) answer⟩
  | timedOut attempt => exact ⟨_, .timedOut (hattempt attempt)⟩
  | asked reader stage =>
    obtain ⟨t, ht, rfl⟩ := reader_shown_iff.mp reader
    exact ⟨_, .asked ht (Stage.plain_eq_between.mp stage)⟩
  | claimFailed reader stage answer =>
    obtain ⟨t, ht, rfl⟩ := reader_shown_iff.mp reader
    exact ⟨_, .claimFailed ht (Stage.plain_eq_claiming.mp stage) answer⟩
  | claimed reader stage answer =>
    obtain ⟨t, ht, rfl⟩ := reader_shown_iff.mp reader
    exact ⟨_, .claimed ht (Stage.plain_eq_claiming.mp stage) answer⟩
  | claimedNothing reader stage answer =>
    obtain ⟨t, ht, rfl⟩ := reader_shown_iff.mp reader
    exact ⟨_, .claimedNothing ht (Stage.plain_eq_claiming.mp stage) answer⟩
  | readFailed reader stage answer =>
    obtain ⟨t, ht, rfl⟩ := reader_shown_iff.mp reader
    exact ⟨_, .readFailed ht (Stage.plain_eq_reading.mp stage) answer⟩
  | read reader stage answer =>
    obtain ⟨t, ht, rfl⟩ := reader_shown_iff.mp reader
    exact ⟨_, .read ht (Stage.plain_eq_reading.mp stage) answer⟩
  | readNothing reader stage answer =>
    obtain ⟨t, ht, rfl⟩ := reader_shown_iff.mp reader
    exact ⟨_, .readNothing ht (Stage.plain_eq_reading.mp stage) answer⟩
  | handedOn reader input forwarder =>
    obtain ⟨⟨k, stage, stopping⟩, ht, hplain⟩ := reader_shown_iff.mp reader
    obtain ⟨fw, hforwarder, -⟩ := Option.map_eq_some_iff.mp forwarder
    cases stage <;> cases hplain
    exact ⟨_, .handedOn ht (Option.map_eq_none_iff.mp input) hforwarder⟩
  | readerStopped reader told =>
    obtain ⟨t, ht, rfl⟩ := reader_shown_iff.mp reader
    exact ⟨_, .readerStopped ht told⟩
  | took forwarder input =>
    obtain ⟨fw, hforwarder, hplain⟩ := Option.map_eq_some_iff.mp forwarder
    obtain ⟨n, hinput, -⟩ := Option.map_eq_some_iff.mp input
    cases fw <;> cases hplain
    exact ⟨_, .took hforwarder hinput⟩
  | put forwarder output =>
    obtain ⟨fw, hforwarder, hplain⟩ := Option.map_eq_some_iff.mp forwarder
    cases fw <;> cases hplain
    exact ⟨_, .put hforwarder (Option.map_eq_none_iff.mp output)⟩
  | forwarderStopped _ told | recoveryStopped told => cases hon.symm.trans told
  | recoveryBegan recovery =>
    obtain ⟨t, ht, hplain⟩ := recovery_shown_iff.mp recovery
    cases t <;> cases hplain
    exact ⟨_, .recoveryBegan ht⟩
  | scheduled uptime recovery reader =>
    obtain ⟨t, ht, hplain⟩ := recovery_shown_iff.mp recovery
    cases t <;> cases hplain
    exact ⟨_, .scheduled uptime ht ((all_isOver_iff_shown h hon ht).mpr reader)⟩
  | attemptBegan recovery =>
    obtain ⟨t, ht, hplain⟩ := recovery_shown_iff.mp recovery
    cases t <;> cases hplain
    exact ⟨_, .attemptBegan ht⟩

/-- Until it is told to end, a queue moves as its crew does. -/
theorem queue_move (h : Sound c.cells) (hon : c.isEnding = false) (m : Queue.Move) :
    c.queue.move m = (c.move 0 m).map shown := by
  cases hmove : c.move 0 m with
  | some e => exact Queue.move_eq_some_iff.mpr ((move_eq_some_iff.mp hmove).mirrored h hon)
  | none =>
    apply Option.eq_none_iff_forall_ne_some.mpr
    intro e hqueue
    obtain ⟨e', hmoves⟩ := enabled_of_moves h hon (Queue.move_eq_some_iff.mp hqueue)
    cases hmove.symm.trans (move_eq_some_iff.mpr hmoves)

/-- While the first attempt to connect is under way no other is, and no recovery that could
make one. -/
theorem Plain.first_attempt (h : c.Plain) {who : Nat} {a : Attempt}
    (attempt : c.attempt? who = some a) : c.attempt? 0 = some a ∧ c.goOn who = c.goOn 0 ∧
      c.attemptFailed who = c.attemptFailed 0 ∧ c.attemptSucceeded who = c.attemptSucceeded 0 := by
  rcases Nat.eq_zero_or_pos who with rfl | hwho
  · exact ⟨attempt, rfl, rfl, rfl⟩
  · have hrecovery : c.recoveries[who]? = none :=
      List.getElem?_eq_none (Nat.le_trans h.recoveries_le hwho)
    cases hfirst : c.firstAttempt with
    | none => simp [attempt?, hfirst, hrecovery] at attempt
    | some b =>
      refine ⟨?_, ?_, ?_, ?_⟩
      · simpa [attempt?, hfirst] using attempt
      · funext b
        simp [goOn, hfirst]
      · funext f
        simp [attemptFailed, measure, hfirst]
      · simp [attemptSucceeded, attemptOver, measure, hfirst]

theorem Plain.first_reader (h : c.Plain) {who : Nat} {r : ReadingTask}
    (reader : c.readers[who]? = some r) : who = 0 := by
  have hlt := (List.getElem?_eq_some_iff.mp reader).1
  have hsingle := h.single
  omega

theorem Plain.first_recovery (h : c.Plain) {who : Nat} {t : RecoveryTask}
    (recovery : c.recoveries[who]? = some t) : who = 0 := by
  have hlt := (List.getElem?_eq_some_iff.mp recovery).1
  have hsingle := h.recoveries_le
  omega

/-- There is no second reader and no second recovery that could move. -/
theorem Moves.first (h : c.Plain) {who : Nat} (moves : c.Moves who m e) : c.Moves 0 m e := by
  have hmoves := moves
  cases moves with
  | openedOnly attempt publishes =>
    obtain ⟨hattempt, -, -, hsucceeded⟩ := h.first_attempt attempt
    rw [hsucceeded]
    exact .openedOnly hattempt publishes
  | openedFirst attempt reads =>
    obtain ⟨hattempt, hgoOn, -⟩ := h.first_attempt attempt
    rw [hgoOn]
    exact .openedFirst hattempt reads
  | openedSecond attempt =>
    obtain ⟨hattempt, hgoOn, -⟩ := h.first_attempt attempt
    rw [hgoOn]
    exact .openedSecond hattempt
  | openFailed reason attempt =>
    have hfailed : c.attemptFailed who = c.attemptFailed 0 :=
      attempt.elim (fun h' => (h.first_attempt h').2.2.1) fun h' => (h.first_attempt h').2.2.1
    rw [hfailed]
    exact .openFailed reason
      (attempt.imp (fun h' => (h.first_attempt h').1) fun h' => (h.first_attempt h').1)
  | created attempt answer =>
    obtain ⟨hattempt, hgoOn, -⟩ := h.first_attempt attempt
    rw [hgoOn]
    exact .created hattempt answer
  | notCreated attempt answer =>
    obtain ⟨hattempt, -, hfailed, -⟩ := h.first_attempt attempt
    rw [hfailed]
    exact .notCreated hattempt answer
  | positioned attempt answer =>
    obtain ⟨hattempt, -, -, hsucceeded⟩ := h.first_attempt attempt
    rw [hsucceeded]
    exact .positioned hattempt answer
  | notPositioned attempt answer =>
    obtain ⟨hattempt, -, hfailed, -⟩ := h.first_attempt attempt
    rw [hfailed]
    exact .notPositioned hattempt answer
  | timedOut attempt =>
    obtain ⟨hattempt, -, hfailed, -⟩ := h.first_attempt attempt
    rw [hfailed]
    exact .timedOut hattempt
  | asked reader | claimFailed reader | claimed reader | claimedNothing reader
  | readFailed reader | read reader | readNothing reader | handedOn reader | readerStopped reader =>
    cases h.first_reader reader
    exact hmoves
  | took forwarder input => exact .took forwarder input
  | put forwarder output => exact .put forwarder output
  | forwarderStopped forwarder told => exact .forwarderStopped forwarder told
  | recoveryBegan recovery | scheduled _ recovery | attemptBegan recovery
  | recoveryStopped _ recovery =>
    cases h.first_recovery recovery
    exact hmoves

end Moving

/-! ## Calls -/

/-- What a queue does when its crew acts. Between sending a command and learning of its
outcome a queue knows nothing of a call, nor does it know who waits for an event. -/
def Mirrors (q : Queue) (e : Queue.Effect) : Act → Prop
  | .move _ m => q.move m = some e
  | .publish change now => ∃ command, q.publish change now = .ok command ∧ e = (q, [command])
  | .acknowledge id => ∃ command, q.acknowledge id = .ok command ∧ e = (q, [command])
  | .answered _ o => e = ((q.publishAnswered o).2, []) ∨ e = ((q.ackAnswered o).2, [])
  | .wait _ => e = (q, [])
  | .abandon _ => e = (q, [])
  | .receive => ∃ event, q.receive = (.item event, e.1) ∧ e.2 = []
  | .noMore => q.receive = (.ended, q) ∧ e = (q, [])
  | .beginClose => q.beginClose = some e.1 ∧ e.2 = []
  | .finishClose => False
  | .release => e = (q.release, [])

/-- Until it is told to end, a queue does what its crew does. -/
theorem mirrors_act (h : Sound c.cells) (hon : c.isEnding = false) {a : Act} {e : Effect}
    (hact : c.act a = some e) : Mirrors c.queue (shown e) a := by
  have hplain := h.plain hon
  cases act_eq_some_iff.mp hact with
  | move moves => exact Queue.move_eq_some_iff.mpr ((moves.first hplain).mirrored h hon)
  | @publishing _ _ command allowed _ => exact ⟨command, allowed, rfl⟩
  | @acknowledging id linked _ =>
    have hgone : c.queue.isGone = false := by
      show (c.isReleased && _ && _) = false
      rw [hplain.owned]
      rfl
    have hlinked : c.queue.isConnected = true := linked
    refine ⟨c.consumer.ackCommand id, ?_, rfl⟩
    simp only [Queue.acknowledge, hgone, hlinked]
    rfl
  | published _ answer =>
    refine .inl (congrArg (·, []) ?_)
    rw [Queue.publishAnswered_eq_iff.mpr (.published answer)]
    rfl
  | notPublished _ answer linked =>
    refine .inl (congrArg (·, []) ?_)
    rw [Queue.publishAnswered_eq_iff.mpr (.notPublished answer linked)]
    rfl
  | @publishLost call _ _ _ f _ answer lost =>
    refine .inl (congrArg (·, []) ?_)
    rw [Queue.publishAnswered_eq_iff.mpr (.publishLost answer lost)]
    exact queue_lose (c := (c.without call).measure _) hplain.reported f
  | acknowledged _ answer =>
    refine .inr (congrArg (·, []) ?_)
    rw [Queue.ackAnswered_eq_iff.mpr (.acknowledged answer)]
    rfl
  | notAcknowledged _ answer linked =>
    refine .inr (congrArg (·, []) ?_)
    rw [Queue.ackAnswered_eq_iff.mpr (.notAcknowledged answer linked)]
    rfl
  | @ackLost call _ _ _ _ f _ answer lost =>
    refine .inr (congrArg (·, []) ?_)
    rw [Queue.ackAnswered_eq_iff.mpr (.ackLost answer lost)]
    exact queue_lose (c := (c.without call).measure _) hplain.reported f
  | waits _ | abandoned _ | released _ => rfl
  | @received _ _ n _ output =>
    have hplace : c.queue.output = some n.event := congrArg (Option.map Numbered.event) output
    refine ⟨n.event, ?_, rfl⟩
    simp only [Queue.receive, hplace]
    rfl
  | sawEnd _ output ended =>
    have hplace : c.queue.output = none := congrArg (Option.map Numbered.event) output
    refine ⟨?_, rfl⟩
    simp only [Queue.receive, hplace, ended, if_true]
  | closing _ untold => exact ⟨Queue.beginClose_eq_some_iff.mpr (.closing untold), rfl⟩
  | closed told => cases hplain.opened.symm.trans told

end CatalogReplica.Crew
