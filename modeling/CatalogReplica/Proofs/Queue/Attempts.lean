/-
# CatalogReplica.Proofs.Queue.Attempts -- attempts to connect

An attempt to connect waits for up to four answers on two connections, and each of them may
be a failure, or may not come in time. `advances` and `fails` say which moves bring what an
attempt waits for and which end it, and there are no others.

`Turn` lists what an act can do to a queue, as far as its link to the service is concerned.
What holds of the link in every state follows from it, and so does what stays as it is for
as long as no attempt succeeds.
-/
import CatalogReplica.Proofs.Queue.ResumePoint

namespace CatalogReplica

namespace Queue

variable {q q' q'' : Queue} {a b : Attempt} {m : Move} {e : Effect} {f : Failure}

/-! ## The moves of an attempt -/

/-- Whether a move is one of the attempt to connect that is under way. -/
def Move.isOfAttempt : Move → Bool
  | .opened | .openFailed _ | .prepared _ | .attemptTimedOut => true
  | _ => false

/-- Whether a move brings what the attempt waits for. -/
def advances (q : Queue) : Move → Bool
  | .opened => q.attempt? = some .opening || q.attempt? = some .openingReader
  | .prepared o =>
    match q.attempt? with
    | some (.creating _) => o.isGroupThere
    | some (.positioning _) => (Consumer.positioned o).isOk
    | _ => false
  | _ => false

/-- Whether the attempt fails by a move: one of the connections is refused, the group is
not there, it cannot be put into position, or whatever comes next is too late. -/
def fails (q : Queue) : Move → Bool
  | .openFailed _ => q.attempt? = some .opening || q.attempt? = some .openingReader
  | .prepared o =>
    match q.attempt? with
    | some (.creating _) => !o.isGroupThere
    | some (.positioning _) => !(Consumer.positioned o).isOk
    | _ => false
  | .attemptTimedOut => q.attempt?.isSome
  | _ => false

/-- What the attempt waits for next, unless it has succeeded. -/
def next? (q : Queue) : Attempt → Option Attempt
  | .opening => if q.settings.writeOnly then none else some .openingReader
  | .openingReader => some (.creating q.resume)
  | .creating resume => some (.positioning resume)
  | .positioning _ => none

/-- What is sent when the attempt has got what it waits for. -/
def sends (q : Queue) : Attempt → List Command
  | .opening | .positioning _ => []
  | .openingReader => [q.consumer.createCommand]
  | .creating resume => [q.consumer.positionCommand resume]

/-- Whether the attempt succeeds by a move. -/
def completes (q : Queue) (m : Move) : Bool :=
  q.advances m && (q.attempt?.bind q.next?).isNone

/-- The queue when the attempt has got what it waits for. -/
def advanced (q : Queue) (a : Attempt) : Queue :=
  match q.next? a with
  | some b => q.goOn b
  | none => q.attemptSucceeded

theorem isOk_iff {o : Outcome} :
    (Consumer.positioned o).isOk = true ↔ Consumer.positioned o = .ok () := by
  cases o <;> simp [Consumer.positioned, Outcome.reply, Except.map, Except.isOk, Except.toBool]

/-- An attempt goes on as soon as it has got what it waits for. -/
theorem move_of_advances (ha : q.attempt? = some a) (h : q.advances m = true) :
    q.move m = some (q.advanced a, q.sends a) := by
  rw [move_eq_some_iff]
  cases m with
  | opened =>
    cases a with
    | opening =>
      cases hwrite : q.settings.writeOnly with
      | false => simpa [advanced, next?, sends, hwrite] using Moves.openedFirst ha hwrite
      | true => simpa [advanced, next?, sends, hwrite] using Moves.openedOnly ha hwrite
    | openingReader => exact .openedSecond ha
    | creating resume => simp [advances, ha] at h
    | positioning resume => simp [advances, ha] at h
  | prepared o =>
    cases a with
    | opening => simp [advances, ha] at h
    | openingReader => simp [advances, ha] at h
    | creating resume =>
      simp only [advances, ha] at h
      exact .created ha (Journal.created_eq_ok_iff.mpr h)
    | positioning resume =>
      simp only [advances, ha] at h
      exact .positioned ha (isOk_iff.mp h)
  | _ => cases h

/-- Whatever makes an attempt fail, nothing is sent. -/
theorem move_of_fails (h : q.fails m = true) :
    ∃ f, q.move m = some (q.attemptFailed f, []) := by
  simp only [move_eq_some_iff]
  cases m with
  | openFailed reason =>
    simp only [fails, Bool.or_eq_true, decide_eq_true_eq] at h
    exact ⟨_, .openFailed reason h⟩
  | prepared o =>
    cases ha : q.attempt? with
    | none => simp [fails, ha] at h
    | some a =>
      cases a with
      | opening => simp [fails, ha] at h
      | openingReader => simp [fails, ha] at h
      | creating resume =>
        simp only [fails, ha, Bool.not_eq_true'] at h
        cases hcreated : Consumer.created o with
        | ok _ => nomatch h.symm.trans (Journal.created_eq_ok_iff.mp hcreated)
        | error f => exact ⟨f, .notCreated ha hcreated⟩
      | positioning resume =>
        simp only [fails, ha, Bool.not_eq_true'] at h
        cases hpositioned : Consumer.positioned o with
        | ok _ => nomatch h.symm.trans (isOk_iff.mpr hpositioned)
        | error f => exact ⟨f, .notPositioned ha hpositioned⟩
  | attemptTimedOut =>
    obtain ⟨a, ha⟩ := Option.isSome_iff_exists.mp h
    exact ⟨_, .timedOut ha⟩
  | _ => cases h

/-- An attempt that is under way either goes on by a move of its own, or fails. -/
theorem advances_or_fails (hown : m.isOfAttempt = true) (h : (q.move m).isSome = true) :
    q.advances m = true ∨ q.fails m = true := by
  obtain ⟨e, he⟩ := Option.isSome_iff_exists.mp h
  cases move_eq_some_iff.mp he with
  | openedOnly attempt | openedFirst attempt | openedSecond attempt => simp [advances, attempt]
  | openFailed _ attempt => simpa [advances, fails] using attempt
  | created attempt | notCreated attempt | positioned attempt | notPositioned attempt
  | timedOut attempt => simp [advances, fails, attempt]
  | _ => cases hown

theorem underWay_of_advances (h : q.advances m = true) : ∃ a, q.attempt? = some a := by
  cases ha : q.attempt? with
  | none => cases m <;> simp [advances, ha] at h
  | some a => exact ⟨a, rfl⟩

theorem underWay_of_fails (h : q.fails m = true) : ∃ a, q.attempt? = some a := by
  cases ha : q.attempt? with
  | none => cases m <;> simp [fails, ha] at h
  | some a => exact ⟨a, rfl⟩

/-! ## The link -/

/-- What others go by to know of the link to the service is as it was. -/
structure Keeps (q q' : Queue) : Prop where
  settings : q'.settings = q.settings
  state : q'.state = q.state
  isConnected : q'.isConnected = q.isConnected
  firstAttempt : q'.firstAttempt = q.firstAttempt
  recovery : q'.recovery = q.recovery

/-- What is read, and from where, is as it was. -/
structure Rests (q q' : Queue) : Prop where
  consumer : q'.consumer = q.consumer
  resume : q'.resume = q.resume
  reader : q'.reader = q.reader

/-- What the link is like while an attempt or a recovery is under way. -/
structure Steady (q : Queue) : Prop where
  first : ∀ a ∈ q.firstAttempt, q.state = .disconnected ∧ q.isConnected = false
  recovering : ∀ t ∈ q.recovery,
    q.state = .reconnecting ∧ (t ≠ .started → q.isConnected = false)

/-- Nothing is connected in `q'`, and an attempt to connect finds there what it would have
found in `q`. -/
structure StaysApart (q q' : Queue) : Prop where
  unheld : q'.isConnected = false
  unread : q'.reader = none
  settings : q'.settings = q.settings
  consumer : q'.consumer = q.consumer
  resume : q'.resume = q.resume

/-- While the first attempt is under way there is nothing to recover and nothing is read. -/
def FirstAlone (q : Queue) : Prop :=
  ∀ a ∈ q.firstAttempt, q.recovery = none ∧ q.reader = none

/-- What a failed attempt leaves of a queue: all that is different is that the failure was
counted and is in the log, and that the attempt is over. -/
def leftByFailure (q : Queue) : Queue :=
  { q with
    firstAttempt := none
    recovery := if q.firstAttempt.isSome then q.recovery else some .waiting
    measurements := q.measurements ++ [.connectionAttempt false]
    notices := q.notices ++
      [if q.firstAttempt.isSome then .firstConnectionFailed else .reconnectFailed] }

theorem goOn_eq (q : Queue) (a : Attempt) : q.goOn a =
    { q with
      firstAttempt := q.firstAttempt.map fun _ => a
      recovery := if q.firstAttempt.isSome then q.recovery else some (.connecting a) } := by
  cases hfirst : q.firstAttempt with
  | some b => simp [goOn, hfirst]
  | none => simp [goOn, hfirst]

theorem attempt?_goOn (q : Queue) (a : Attempt) : (q.goOn a).attempt? = some a := by
  cases hfirst : q.firstAttempt with
  | some b => simp [goOn, attempt?, hfirst]
  | none => simp [goOn, attempt?, hfirst]

theorem goOn_goOn (q : Queue) (a b : Attempt) : (q.goOn a).goOn b = q.goOn b := by
  cases hfirst : q.firstAttempt with
  | some c => simp [goOn, hfirst]
  | none => simp [goOn, hfirst]

theorem recovery_of_attempt? (ha : q.attempt? = some a) (hfirst : q.firstAttempt = none) :
    q.recovery = some (.connecting a) := by
  rcases Journal.tries_of_attempt? ha with h | h
  · nomatch hfirst.symm.trans h
  · exact h

/-- To go on to where an attempt is changes nothing. -/
theorem goOn_self (ha : q.attempt? = some a) : q.goOn a = q := by
  cases hfirst : q.firstAttempt with
  | some b =>
    have hsame : b = a := by simpa [attempt?, hfirst] using ha
    rw [Journal.goOn_of_first hfirst]
    cases q
    cases hfirst
    cases hsame
    rfl
  | none =>
    have hrecovery : q.recovery = some (.connecting a) := recovery_of_attempt? ha hfirst
    rw [Journal.goOn_of_none hfirst]
    cases q
    cases hrecovery
    rfl

theorem attempt?_eq_none (hfirst : q.firstAttempt = none)
    (hrecovery : ∀ a, q.recovery ≠ some (.connecting a)) : q.attempt? = none := by
  cases ha : q.attempt? with
  | none => rfl
  | some a => exact absurd (recovery_of_attempt? ha hfirst) (hrecovery a)

theorem Keeps.attempt? (h : Keeps q q') : q'.attempt? = q.attempt? := by
  unfold Queue.attempt?
  rw [h.firstAttempt, h.recovery]

/-- A loss is no news for an attempt that is under way, nor does it begin one. -/
theorem attempt?_lose (q : Queue) (f : Failure) : (q.lose f).attempt? = q.attempt? := by
  unfold lose
  split
  case isTrue => rfl
  case isFalse hopen =>
    have hrecovery : q.recovery = none := by
      rw [Bool.or_eq_true, not_or] at hopen
      simpa using hopen.2
    cases hfirst : q.firstAttempt with
    | some a => simp [Queue.attempt?, enter, measure, notify, hfirst]
    | none => simp [Queue.attempt?, enter, measure, notify, hfirst, hrecovery]

/-- Only the failure of the first attempt is reported as a loss. -/
theorem attemptFailed_eq (q : Queue) (f : Failure) : q.attemptFailed f =
    if q.firstAttempt.isSome then q.leftByFailure.lose f else q.leftByFailure := by
  cases hfirst : q.firstAttempt with
  | some a => simp [attemptFailed, leftByFailure, measure, notify, hfirst]
  | none => simp [attemptFailed, leftByFailure, measure, notify, hfirst]

/-! ### What is true of the link -/

theorem Steady.of_keeps (h : Steady q) (hkeeps : Keeps q q') : Steady q' := by
  constructor
  · rw [hkeeps.firstAttempt, hkeeps.state, hkeeps.isConnected]
    exact h.first
  · rw [hkeeps.recovery, hkeeps.state, hkeeps.isConnected]
    exact h.recovering

theorem Steady.lose (h : Steady q) (hfirst : q.firstAttempt = none) (f : Failure) :
    Steady (q.lose f) := by
  unfold Queue.lose
  split
  case isTrue => exact h
  case isFalse =>
    constructor
    · intro a ha
      nomatch hfirst.symm.trans ha
    · intro t ht
      cases ht
      exact ⟨rfl, fun hstarted => absurd rfl hstarted⟩

/-- While an attempt is under way, nobody is told of a connection. -/
theorem Steady.unheld (h : Steady q) (ha : q.attempt? = some a) : q.isConnected = false := by
  cases hfirst : q.firstAttempt with
  | some b => exact (h.first b hfirst).2
  | none =>
    exact (h.recovering _ (recovery_of_attempt? ha hfirst)).2 fun hstarted => by cases hstarted

theorem Steady.state_of_attempt (h : Steady q) (ha : q.attempt? = some a) :
    q.state = if q.firstAttempt.isSome then .disconnected else .reconnecting := by
  cases hfirst : q.firstAttempt with
  | some b => exact (h.first b hfirst).1
  | none => exact (h.recovering _ (recovery_of_attempt? ha hfirst)).1

/-- A recovery that goes on leaves the link as it is. -/
theorem Steady.withRecovery (h : Steady q) (hunheld : q.isConnected = false) {t : Recovery}
    (ht : q.recovery = some t) (next : Option Recovery) :
    Steady { q with recovery := next } where
  first := h.first
  recovering _ _ := ⟨(h.recovering t ht).1, fun _ => hunheld⟩

theorem Steady.goOn (h : Steady q) (ha : q.attempt? = some a) (b : Attempt) :
    Steady (q.goOn b) := by
  cases hfirst : q.firstAttempt with
  | some c =>
    rw [Journal.goOn_of_first hfirst]
    exact ⟨fun _ _ => h.first c hfirst, h.recovering⟩
  | none =>
    rw [Journal.goOn_of_none hfirst]
    exact h.withRecovery (h.unheld ha) (recovery_of_attempt? ha hfirst) _

theorem Steady.attemptSucceeded (q : Queue) : Steady q.attemptSucceeded := by
  unfold Queue.attemptSucceeded
  dsimp only
  split
  all_goals
    constructor
    · intro a ha
      cases ha
    · intro t ht
      cases ht

theorem Steady.leftByFailure (h : Steady q) (hfirst : FirstAlone q) (ha : q.attempt? = some a) :
    Steady q.leftByFailure := by
  constructor
  · intro b hb
    cases hb
  · intro t ht
    cases hcreated : q.firstAttempt with
    | some b =>
      have hrecovery : q.recovery = some t := by simpa [Queue.leftByFailure, hcreated] using ht
      nomatch (hfirst b hcreated).1.symm.trans hrecovery
    | none =>
      exact ⟨(h.recovering _ (recovery_of_attempt? ha hcreated)).1, fun _ => h.unheld ha⟩

theorem Steady.attemptFailed (h : Steady q) (hfirst : FirstAlone q) (ha : q.attempt? = some a)
    (f : Failure) : Steady (q.attemptFailed f) := by
  rw [attemptFailed_eq]
  split
  · exact (h.leftByFailure hfirst ha).lose rfl f
  · exact h.leftByFailure hfirst ha

theorem StaysApart.of_keeps (h : StaysApart q q') (hkeeps : Keeps q' q'') (hrests : Rests q' q'') :
    StaysApart q q'' where
  unheld := hkeeps.isConnected.trans h.unheld
  unread := hrests.reader.trans h.unread
  settings := hkeeps.settings.trans h.settings
  consumer := hrests.consumer.trans h.consumer
  resume := hrests.resume.trans h.resume

theorem StaysApart.lose (h : StaysApart q q') (f : Failure) : StaysApart q (q'.lose f) := by
  unfold Queue.lose
  split
  · exact h
  · exact { h with }

theorem StaysApart.goOn (h : StaysApart q q') (a : Attempt) : StaysApart q (q'.goOn a) := by
  rw [goOn_eq]
  exact { h with }

theorem StaysApart.attemptFailed (h : StaysApart q q') (f : Failure) :
    StaysApart q (q'.attemptFailed f) := by
  have hleft : StaysApart q q'.leftByFailure := { h with }
  rw [attemptFailed_eq]
  split
  · exact hleft.lose f
  · exact hleft

end Queue

namespace Journal

open Queue (Keeps Rests Steady StaysApart FirstAlone)

variable {s : QueueSettings} {j k k' l : Journal} {q q' q'' : Queue} {a b : Attempt}

/-! ## Turns -/

/-- Whether an act is a move of the attempt to connect. -/
def Act.isOfAttempt : Act → Bool
  | .move m => m.isOfAttempt
  | .call _ => false

/-- What an act can do to the link of a queue. -/
inductive Turn (q : Queue) : Act → Queue → Prop where
  /-- A reader moves. -/
  | reads {m : Queue.Move} {q' : Queue} (reading : q.reader ≠ none)
      (other : m.isOfAttempt = false) (keeps : Keeps q q') : Turn q (.move m) q'
  /-- Events are passed on, callers learn how a command went, or tasks are told to end. -/
  | passes {act : Act} {q' : Queue} (other : act.isOfAttempt = false) (keeps : Keeps q q')
      (rests : Rests q q') : Turn q act q'
  /-- A reader or a caller reports a loss. -/
  | loses {act : Act} {q' : Queue} {f : Failure} (other : act.isOfAttempt = false)
      (created : q.firstAttempt = none) (keeps : Keeps q q')
      (rests : q.reader ≠ none ∨ Rests q q') : Turn q act (q'.lose f)
  | goesOn {m : Queue.Move} {a b : Attempt} (advances : q.advances m = true)
      (underWay : q.attempt? = some a) (next : q.next? a = some b) : Turn q (.move m) (q.goOn b)
  | succeeds {m : Queue.Move} (completes : q.completes m = true) :
      Turn q (.move m) q.attemptSucceeded
  | fails {m : Queue.Move} {f : Failure} {a : Attempt} (underWay : q.attempt? = some a) :
      Turn q (.move m) (q.attemptFailed f)
  /-- The recovery lets go of the connection. -/
  | letsGo (started : q.recovery = some .started) : Turn q (.move .recoveryBegan) { q with
      isConnected := false
      reader := q.reader.map fun r => { r with isStopping := true }
      recovery := some .stoppingReader }
  | schedules {uptime : Nat} {t : Recovery} (stopped : q.recovery = some .stoppingReader)
      (next : t = .waiting ∨ t = .broken) :
      Turn q (.move (.recoveryScheduled uptime)) { q with recovery := some t }
  | begins (waiting : q.recovery = some .waiting) :
      Turn q (.move .attemptBegan) { q with recovery := some (.connecting .opening) }
  /-- The recovery ends, and with it the attempt that it may be at. -/
  | givesUp {t : Recovery} (recovering : q.recovery = some t) :
      Turn q (.move .recoveryStopped) { q with recovery := none }
  /-- All tasks have ended. -/
  | closes {q' : Queue} (created : q'.firstAttempt = none) (recovered : q'.recovery = none)
      (apart : q.reader = none → StaysApart q q') : Turn q (.call .finishClose) q'

theorem turn_of_own {m : Queue.Move} {e : Queue.Effect} (hown : m.isOfAttempt = true)
    (hmove : q.move m = some e) : Turn q (.move m) e.1 := by
  rcases Queue.advances_or_fails hown (by rw [hmove]; rfl) with hadvances | hfails
  · obtain ⟨a, ha⟩ := Queue.underWay_of_advances hadvances
    rw [Queue.move_of_advances ha hadvances] at hmove
    cases hmove
    unfold Queue.advanced
    dsimp only
    split
    case h_1 hnext => exact .goesOn hadvances ha hnext
    case h_2 hnext =>
      refine .succeeds ?_
      simp [Queue.completes, hadvances, ha, hnext]
  · obtain ⟨a, ha⟩ := Queue.underWay_of_fails hfails
    obtain ⟨f, hf⟩ := Queue.move_of_fails hfails
    rw [hf] at hmove
    cases hmove
    exact .fails ha

/-- A reader that fails is there, so the first attempt is over. -/
theorem turn_of_readerFailed (hfirst : FirstAlone q) {r : Reader} (hr : q.reader = some r)
    (m : Queue.Move) (hother : m.isOfAttempt = false) (f : Failure) :
    Turn q (.move m) (q.readerFailed f) := by
  have hcreated : q.firstAttempt = none := by
    cases ha : q.firstAttempt with
    | none => rfl
    | some a => nomatch hr.symm.trans (hfirst a ha).2
  have hreading : q.reader ≠ none := by simp [hr]
  exact .loses hother hcreated ⟨rfl, rfl, rfl, rfl, rfl⟩ (.inl hreading)

theorem keeps_entryCame (q : Queue) (r : Reader) (x : Entry) : Keeps q (q.entryCame r x) := by
  unfold Queue.entryCame
  dsimp only
  split <;> exact ⟨rfl, rfl, rfl, rfl, rfl⟩

theorem turn_of_move (hfirst : FirstAlone q) {m : Queue.Move} {e : Queue.Effect}
    (hmove : q.move m = some e) : Turn q (.move m) e.1 := by
  cases Queue.move_eq_some_iff.mp hmove with
  | openedOnly | openedFirst | openedSecond | openFailed | created | notCreated | positioned
  | notPositioned | timedOut => exact turn_of_own rfl hmove
  | asked reader | claimedNothing reader | readNothing reader | handedOn reader
  | readerStopped reader => exact .reads (by simp [reader]) rfl ⟨rfl, rfl, rfl, rfl, rfl⟩
  | claimFailed reader | readFailed reader => exact turn_of_readerFailed hfirst reader _ rfl _
  | @claimed _ r x k reader =>
    have hkeeps : Keeps { q with consumer := k } _ := keeps_entryCame _ r x
    exact .reads (by simp [reader]) rfl { hkeeps with }
  | read reader => exact .reads (by simp [reader]) rfl (keeps_entryCame q _ _)
  | took | put | forwarderStopped =>
    exact .passes rfl ⟨rfl, rfl, rfl, rfl, rfl⟩ ⟨rfl, rfl, rfl⟩
  | recoveryBegan recovery => exact .letsGo recovery
  | scheduled uptime recovery =>
    refine .schedules recovery ?_
    split
    · exact .inl rfl
    · exact .inr rfl
  | attemptBegan recovery => exact .begins recovery
  | recoveryStopped _ recovery => exact .givesUp recovery

/-- Nobody calls before the first attempt is over. -/
theorem turn_of_call (hcreated : q.firstAttempt = none) {c : Queue.Call}
    (hcall : q.call c = some q') : Turn q (.call c) q' := by
  cases Queue.call_eq_some_iff.mp hcall with
  | publishLost | ackLost =>
    exact .loses rfl hcreated ⟨rfl, rfl, rfl, rfl, rfl⟩ (.inr ⟨rfl, rfl, rfl⟩)
  | closed => exact .closes hcreated rfl fun hunread => ⟨rfl, hunread, rfl, rfl, rfl⟩
  | _ => exact .passes rfl ⟨rfl, rfl, rfl, rfl, rfl⟩ ⟨rfl, rfl, rfl⟩

/-- What happens is a turn. -/
theorem Sound.turn (h : Sound s k) {act : Act} (hact : k.act act = some k') :
    Turn k.queue act k'.queue := by
  cases act with
  | move m =>
    obtain ⟨e, he, rfl⟩ := Option.map_eq_some_iff.mp hact
    exact turn_of_move h.first he
  | call c =>
    obtain ⟨hheld, hcall⟩ := Option.ite_none_right_eq_some.mp hact
    obtain ⟨q, hq, rfl⟩ := Option.map_eq_some_iff.mp hcall
    exact turn_of_call (Option.isNone_iff_eq_none.mp hheld) hq

/-! ## Whole runs -/

theorem steady_turn (h : Steady q) (hfirst : FirstAlone q) {act : Act} (hturn : Turn q act q') :
    Steady q' := by
  cases hturn with
  | reads _ _ keeps => exact h.of_keeps keeps
  | passes _ keeps _ => exact h.of_keeps keeps
  | loses _ created keeps _ => exact (h.of_keeps keeps).lose (keeps.firstAttempt.trans created) _
  | goesOn _ underWay _ => exact h.goOn underWay _
  | succeeds _ => exact .attemptSucceeded q
  | fails underWay => exact h.attemptFailed hfirst underWay _
  | letsGo started =>
    constructor
    · intro a ha
      nomatch (hfirst a ha).1.symm.trans started
    · exact fun _ _ => ⟨(h.recovering _ started).1, fun _ => rfl⟩
  | schedules stopped _ =>
    have hunheld := (h.recovering _ stopped).2 fun hstarted => by cases hstarted
    exact h.withRecovery hunheld stopped _
  | begins waiting =>
    have hunheld := (h.recovering _ waiting).2 fun hstarted => by cases hstarted
    exact h.withRecovery hunheld waiting _
  | givesUp _ =>
    refine ⟨h.first, ?_⟩
    intro t ht
    cases ht
  | closes created recovered _ =>
    constructor
    · intro a ha
      nomatch created.symm.trans ha
    · intro t ht
      nomatch recovered.symm.trans ht

/-- Without a connection only an attempt that succeeds makes one, or starts a reader. -/
theorem staysApart_turn (h : StaysApart q q') {act : Act} (hturn : Turn q' act q'')
    (hunsuccessful : ∀ m, act = .move m → q'.completes m = false) : StaysApart q q'' := by
  cases hturn with
  | reads reading _ _ => exact absurd h.unread reading
  | passes _ keeps rests => exact h.of_keeps keeps rests
  | loses _ _ keeps rests =>
    rcases rests with hreading | hrests
    · exact absurd h.unread hreading
    · exact (h.of_keeps keeps hrests).lose _
  | goesOn _ _ _ => exact h.goOn _
  | succeeds completes => nomatch completes.symm.trans (hunsuccessful _ rfl)
  | fails _ => exact h.attemptFailed _
  | letsGo _ =>
    refine { h with unheld := rfl, unread := ?_ }
    simp [h.unread]
  | schedules _ _ => exact { h with }
  | begins _ => exact { h with }
  | givesUp _ => exact { h with }
  | closes _ _ apart =>
    have hapart := apart h.unread
    exact
      { hapart with
        settings := hapart.settings.trans h.settings
        consumer := hapart.consumer.trans h.consumer
        resume := hapart.resume.trans h.resume }

theorem steady_of_create {q : Queue} (hcreate : Queue.create s = .ok q) : Steady q := by
  obtain ⟨consumer, limit, -, rfl⟩ := Queue.eq_of_create hcreate
  refine ⟨fun _ _ => ⟨rfl, rfl⟩, ?_⟩
  intro t ht
  cases ht

theorem Reachable.steady (h : Reachable s k) : Steady k.queue := by
  induction h with
  | fresh created => exact steady_of_create created
  | act reached happens ih => exact steady_turn ih reached.sound.first (reached.sound.turn happens)

/-- What can happen as long as no attempt to connect succeeds. -/
inductive Unconnected (k : Journal) : Journal → Prop where
  | here : Unconnected k k
  | act {l l' : Journal} {act : Act} (before : Unconnected k l) (happens : l.act act = some l')
      (unsuccessful : ∀ m, act = .move m → l.queue.completes m = false) : Unconnected k l'

theorem Unconnected.reachable (h : Unconnected k l) (hk : Reachable s k) : Reachable s l := by
  induction h with
  | here => exact hk
  | act _ happens _ ih => exact ih.act happens

/-- As long as no attempt succeeds, the next one finds what this one has found. -/
theorem Unconnected.staysApart (h : Unconnected k l) (hk : Reachable s k) {a : Attempt}
    (ha : k.queue.attempt? = some a) : StaysApart k.queue l.queue := by
  induction h with
  | here => exact ⟨hk.steady.unheld ha, hk.sound.no_reader (tries_of_attempt? ha), rfl, rfl, rfl⟩
  | act before happens unsuccessful ih =>
    exact staysApart_turn ih ((before.reachable hk).sound.turn happens) unsuccessful

end Journal
end CatalogReplica
