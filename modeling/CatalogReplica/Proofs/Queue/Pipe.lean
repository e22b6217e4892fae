/-
# CatalogReplica.Proofs.Queue.Pipe -- the way of an event through a crew

An event passes from the reader that has read it through two channels and the forwarder
to a caller:

    offers --> input --> held --> output --> received

What has been received and what is under way, the oldest first, is the *track* of a
crew. `Flow` says all that a step can do to it: an event that moves on stays where it is
on the track; a reading adds one at the end; a reader that is stopped takes away the one
it holds, which is the last; and only when the tasks end may others be lost.
-/
import CatalogReplica.Proofs.Queue.OneRecovery

namespace CatalogReplica

/-! ## Entries -/

/-- The event that an entry stands for, if it can be decoded. -/
def Entry.event? (e : Entry) : Option Event :=
  match e.decode with
  | .ok (id, change) => some ⟨id, change⟩
  | .error _ => none

namespace Crew

/-- The event that a reader gets: its claim or its read was answered with an entry, and
the entry can be decoded. -/
def gets (c : Crew) : Act → Option Event
  | .move _ (.claimAnswered o) =>
    match c.consumer.claimed o with
    | .ok (some e, _) => e.event?
    | _ => none
  | .move _ (.readAnswered o) =>
    match Consumer.read o with
    | .ok (some e) => e.event?
    | _ => none
  | _ => none

/-! ## Places -/

/-- The event that a reader holds. -/
def Stage.held? : Stage → Option Numbered
  | offering n => some n
  | _ => none

@[simp]
theorem Stage.held?_offering (n : Numbered) : (offering n).held? = some n := rfl

@[simp]
theorem Stage.held?_between : between.held? = none := rfl

theorem Stage.eq_of_held? {s : Stage} {n : Numbered} (h : s.held? = some n) :
    s = offering n := by
  unfold held? at h
  split at h <;> cases h
  rfl

/-- The event that the forwarder holds. -/
def ForwardingTask.held? : ForwardingTask → Option Numbered
  | waiting => none
  | holding n => some n

/-- The number of a reader, and the event that it holds. -/
def ReadingTask.offer (t : ReadingTask) : Nat × Option Numbered := (t.number, t.stage.held?)

/-- The events that an act drops: a reader that stops drops the one that it holds, and
the forwarder that stops the one that it holds and the one in the input channel. -/
def discards (c : Crew) : Act → List Numbered
  | .move who .readerStopped => (c.readers[who]?.bind fun t => t.stage.held?).toList
  | .move _ .forwarderStopped =>
    (c.forwarder.bind ForwardingTask.held?).toList ++ c.input.toList
  | _ => []

/-- The places of events in a crew, and the record of them. -/
structure Pipe where
  readings : List Reading
  offers : List (Nat × Option Numbered)
  input : Option Numbered
  held : Option Numbered
  isForwarding : Bool
  output : Option Numbered
  received : List Reception
  stopped : List Nat

def pipe (c : Crew) : Pipe where
  readings := c.readings
  offers := c.readers.map ReadingTask.offer
  input := c.input
  held := c.forwarder.bind ForwardingTask.held?
  isForwarding := c.forwarder.isSome
  output := c.output
  received := c.received
  stopped := c.stopped

namespace Pipe

/-- What has been read and not yet received or lost, the oldest first. -/
def underWay (p : Pipe) : List Numbered :=
  p.output.toList ++ (p.held.toList ++ (p.input.toList ++ p.offers.filterMap Prod.snd))

/-- What has been received or is under way, the oldest first. -/
def track (p : Pipe) : List Numbered := p.received.map Reception.item ++ p.underWay

/-- What has been read, with the numbers of the readings. -/
def numbered (p : Pipe) : List Numbered := p.readings.mapIdx fun i x => ⟨i, x.event⟩

/-- A reading is lost when its reader was stopped and has not read anything after it. -/
def Lost (p : Pipe) (i : Nat) : Prop :=
  ∃ x, p.readings[i]? = some x ∧ x.reader ∈ p.stopped ∧
    ∀ j y, i < j → p.readings[j]? = some y → y.reader ≠ x.reader

/-- What a step can do to the events in a crew that has, or has not, been told to end,
when a reader gets this event with it, and these are dropped. -/
inductive Flow (isEnding : Bool) (got : Option Event) (dropped : List Numbered) (p p' : Pipe) :
    Prop where
  /-- Events move on, or none of them does. -/
  | keeps (unread : got = none) (readings : p'.readings = p.readings) (track : p'.track = p.track)
      (stopped : p'.stopped = p.stopped) (offers : ∀ o ∈ p'.offers, o.2.isSome → o ∈ p.offers)
      (forwarding : p'.isForwarding = p.isForwarding) (kept : dropped = [])
      (held : ∀ o ∈ p.offers, o.2.isSome → o ∈ p'.offers ∨ p.input = none ∧ p'.input = o.2)
  /-- The reader has read an event. -/
  | reads (k : Nat) (e : Event) (read : got = some e) (reader : p.offers = [(k, none)])
      (offers : p'.offers = [(k, some ⟨p.readings.length, e⟩)])
      (readings : p'.readings = p.readings ++ [⟨k, e⟩])
      (track : p'.track = p.track ++ [⟨p.readings.length, e⟩])
      (stopped : p'.stopped = p.stopped) (forwarding : p'.isForwarding = p.isForwarding)
      (kept : dropped = [])
  /-- The reader was stopped. -/
  | stops (k : Nat) (held : Option Numbered) (unread : got = none) (reader : p.offers = [(k, held)])
      (offers : p'.offers = []) (readings : p'.readings = p.readings)
      (track : p.track = p'.track ++ held.toList) (stopped : p'.stopped = p.stopped ++ [k])
      (forwarding : p'.isForwarding = p.isForwarding) (lost : dropped = held.toList)
  /-- The forwarder was stopped. -/
  | ends (ending : isEnding = true) (unread : got = none) (offers : p'.offers = p.offers)
      (readings : p'.readings = p.readings) (track : p'.track.Sublist p.track)
      (stopped : p'.stopped = p.stopped) (lost : p.track.Perm (p'.track ++ dropped))

/-- A step that has nothing to do with events. -/
theorem Flow.of_eq {isEnding : Bool} {p p' : Pipe} (h : p' = p) : Flow isEnding none [] p p' := by
  subst h
  exact .keeps rfl rfl rfl rfl (fun o ho _ => ho) rfl rfl fun o ho _ => .inl ho

end Pipe

variable {c : Crew} {who : Nat}

/-! ## Connecting -/

@[simp]
theorem lose_pipe (c : Crew) (f : Failure) : (c.lose f).pipe = c.pipe := by
  unfold lose
  split <;> rfl

@[simp]
theorem goOn_pipe (c : Crew) (who : Nat) (a : Attempt) : (c.goOn who a).pipe = c.pipe := by
  unfold goOn
  split <;> rfl

@[simp]
theorem attemptFailed_pipe (c : Crew) (who : Nat) (f : Failure) :
    (c.attemptFailed who f).pipe = c.pipe := by
  unfold attemptFailed
  dsimp only
  split
  · rw [lose_pipe]
    rfl
  · rfl

@[simp]
theorem attemptOver_pipe (c : Crew) (who : Nat) : (c.attemptOver who).pipe = c.pipe := by
  unfold attemptOver
  split <;> rfl

/-- To be told to stop does not change what a reader holds. -/
theorem readersTold_offers (c : Crew) :
    c.readersTold.map ReadingTask.offer = c.readers.map ReadingTask.offer := by
  simp only [readersTold, List.map_map]
  apply List.map_congr_left
  intro t _
  show ReadingTask.offer (if c.slot = some t.number then _ else t) = t.offer
  split <;> rfl

/-- A reader that is started holds nothing. -/
theorem startReader_pipe (c : Crew) :
    c.startReader.pipe = { c.pipe with offers := c.pipe.offers ++ [(c.started, none)] } := by
  simp only [startReader, pipe, List.map_append, readersTold_offers]
  rfl

theorem flow_startReader (isEnding : Bool) (c : Crew) :
    Pipe.Flow isEnding none [] c.pipe c.startReader.pipe := by
  rw [startReader_pipe]
  refine .keeps rfl rfl ?_ rfl ?_ rfl rfl fun o ho _ => .inl (List.mem_append_left _ ho)
  · simp [Pipe.track, Pipe.underWay]
  · intro o ho hsome
    rcases List.mem_append.mp ho with hold | hnew
    · exact hold
    · rw [List.mem_singleton.mp hnew] at hsome
      cases hsome

theorem flow_attemptSucceeded (isEnding : Bool) (c : Crew) (who : Nat) :
    Pipe.Flow isEnding none [] c.pipe (c.attemptSucceeded who).pipe := by
  have hover : ((c.measure (.connectionAttempt true)).attemptOver who).pipe = c.pipe :=
    attemptOver_pipe _ who
  unfold attemptSucceeded
  dsimp only
  rw [← hover]
  split
  · exact .of_eq rfl
  · split
    · exact .of_eq rfl
    · exact flow_startReader isEnding (link _)

/-! ## Reading -/

/-- A reader that moves is the only one. -/
theorem Sound.only_reader (h : Sound c.cells) {t : ReadingTask} (ht : c.readers[who]? = some t) :
    who = 0 ∧ c.readers = [t] := by
  have hsingle : (c.readers.map ReadingTask.tag).length ≤ 1 := h.single
  rw [List.length_map] at hsingle
  have hwho : who < c.readers.length := (List.getElem?_eq_some_iff.mp ht).1
  have hzero : who = 0 := by omega
  subst hzero
  obtain ⟨u, hu⟩ := List.length_eq_one_iff.mp (show c.readers.length = 1 by omega)
  rw [hu] at ht ⊢
  cases ht
  exact ⟨rfl, rfl⟩

/-- A reader that holds nothing goes to a stage at which it holds nothing. -/
theorem readerAt_pipe {t : ReadingTask} (ht : c.readers[who]? = some t) {stage : Stage}
    (hempty : t.stage.held? = none) (hempty' : stage.held? = none) :
    (c.readerAt who t stage).pipe = c.pipe := by
  have hkeeps : ({ t with stage := stage } : ReadingTask).offer = t.offer := by
    rw [ReadingTask.offer, ReadingTask.offer, hempty, hempty']
  have hoffers := map_set_eq (f := ReadingTask.offer) ht hkeeps
  simp only [readerAt, pipe, hoffers]

theorem flow_entryCame (h : Sound c.cells) (isEnding : Bool) {t : ReadingTask}
    (ht : c.readers[who]? = some t) (hempty : t.stage.held? = none) (entry : Entry) :
    Pipe.Flow isEnding entry.event? [] c.pipe (c.entryCame who t entry).pipe := by
  obtain ⟨rfl, hreaders⟩ := h.only_reader ht
  unfold entryCame Entry.event?
  cases entry.decode with
  | error f => exact .of_eq (readerAt_pipe ht hempty rfl)
  | ok decoded =>
    obtain ⟨id, change⟩ := decoded
    have hoffers : c.pipe.offers = [(t.number, none)] := by
      simp [pipe, hreaders, ReadingTask.offer, hempty]
    refine .reads t.number ⟨id, change⟩ rfl hoffers ?_ rfl ?_ rfl rfl rfl
    · simp [measure, read, readerAt, pipe, hreaders, ReadingTask.offer]
    · simp [measure, read, readerAt, pipe, hreaders, ReadingTask.offer, hempty, Pipe.track,
        Pipe.underWay]

/-- A reader that fails holds nothing. -/
theorem flow_readerFailed (h : Sound c.cells) (isEnding : Bool) {t : ReadingTask}
    (ht : c.readers[who]? = some t) (hempty : t.stage.held? = none) (f : Failure) :
    Pipe.Flow isEnding none [] c.pipe (c.readerFailed who f).pipe := by
  obtain ⟨rfl, hreaders⟩ := h.only_reader ht
  unfold readerFailed
  rw [lose_pipe]
  refine .keeps rfl rfl ?_ rfl ?_ rfl rfl ?_
  · simp [pipe, hreaders, ReadingTask.offer, hempty, Pipe.track, Pipe.underWay]
  · simp [pipe, hreaders]
  · simp [pipe, hreaders, ReadingTask.offer, hempty]

theorem held?_of_claiming {s : Stage} (h : s = .claiming) : s.held? = none := by
  rw [h]
  rfl

theorem held?_of_reading {s : Stage} (h : s = .reading) : s.held? = none := by
  rw [h]
  rfl

/-- The event that the reader holds is the last on the track, and so it is afterwards. -/
theorem flow_handOn (h : Sound c.cells) (isEnding : Bool) {k : Nat} {n : Numbered}
    {stopping : Bool} (ht : c.readers[who]? = some ⟨k, .offering n, stopping⟩)
    (hinput : c.input = none) : Pipe.Flow isEnding none [] c.pipe ({ c with
      readers := c.readers.set who ⟨k, .between, stopping⟩
      input := some n } : Crew).pipe := by
  obtain ⟨rfl, hreaders⟩ := h.only_reader ht
  refine .keeps rfl rfl ?_ rfl ?_ rfl rfl ?_
  · simp [pipe, hreaders, hinput, ReadingTask.offer, Pipe.track, Pipe.underWay]
  · simp [pipe, hreaders, ReadingTask.offer]
  · simp [pipe, hreaders, hinput, ReadingTask.offer]

/-- What the reader holds is lost with it. -/
theorem flow_readerStops (h : Sound c.cells) (isEnding : Bool) {t : ReadingTask}
    (ht : c.readers[who]? = some t) :
    Pipe.Flow isEnding none (c.discards (.move who .readerStopped)) c.pipe ({ c with
      readers := c.readers.eraseIdx who
      stopped := c.stopped ++ [t.number] } : Crew).pipe := by
  obtain ⟨rfl, hreaders⟩ := h.only_reader ht
  refine .stops t.number t.stage.held? rfl ?_ ?_ rfl ?_ rfl rfl ?_
  · simp [pipe, hreaders, ReadingTask.offer]
  · simp [pipe, hreaders]
  · cases hheld : t.stage.held? <;>
      simp [pipe, hreaders, ReadingTask.offer, hheld, Pipe.track, Pipe.underWay]
  · simp [discards, hreaders]

/-! ## Forwarding and receiving -/

theorem flow_take (isEnding : Bool) {n : Numbered} (hforwarder : c.forwarder = some .waiting)
    (hinput : c.input = some n) : Pipe.Flow isEnding none [] c.pipe
      ({ c with forwarder := some (.holding n), input := none } : Crew).pipe := by
  refine .keeps rfl rfl ?_ rfl (fun o ho _ => ho) ?_ rfl fun o ho _ => .inl ho
  · simp [pipe, hforwarder, hinput, ForwardingTask.held?, Pipe.track, Pipe.underWay]
  · simp [pipe, hforwarder]

theorem flow_put (isEnding : Bool) {n : Numbered} (hforwarder : c.forwarder = some (.holding n))
    (houtput : c.output = none) : Pipe.Flow isEnding none [] c.pipe
      ({ c with forwarder := some .waiting, output := some n } : Crew).pipe := by
  refine .keeps rfl rfl ?_ rfl (fun o ho _ => ho) ?_ rfl fun o ho _ => .inl ho
  · simp [pipe, hforwarder, houtput, ForwardingTask.held?, Pipe.track, Pipe.underWay]
  · simp [pipe, hforwarder]

/-- What the forwarder holds and what is in the input channel are lost with it. -/
theorem flow_forwarderStops (who : Nat) (hending : c.isEnding = true) :
    Pipe.Flow c.isEnding none (c.discards (.move who .forwarderStopped)) c.pipe
      ({ c with forwarder := none, input := none } : Crew).pipe := by
  refine .ends hending rfl rfl rfl ?_ rfl ?_
  · refine (List.Sublist.refl _).append ((List.Sublist.refl _).append ?_)
    exact (List.nil_sublist _).append ((List.nil_sublist _).append (List.Sublist.refl _))
  · refine List.perm_iff_count.mpr fun n => ?_
    simp only [pipe, discards, Pipe.track, Pipe.underWay, Option.bind_none, Option.toList_none,
      List.nil_append, List.count_append]
    omega

/-! ## All steps -/

theorem Moves.flow (h : Sound c.cells) {m : Queue.Move} {e : Effect} (hmove : c.Moves who m e) :
    Pipe.Flow c.isEnding (c.gets (.move who m)) (c.discards (.move who m)) c.pipe e.1.pipe := by
  cases hmove with
  | openedOnly | positioned => exact flow_attemptSucceeded _ c who
  | openedFirst | openedSecond | created => exact .of_eq (goOn_pipe c who _)
  | openFailed | notCreated | notPositioned | timedOut =>
    exact .of_eq (attemptFailed_pipe c who _)
  | asked reader stage =>
    refine .of_eq (readerAt_pipe reader ?_ rfl)
    rw [stage]
    rfl
  | claimFailed reader stage answer =>
    simp only [gets, answer]
    exact flow_readerFailed h _ reader (held?_of_claiming stage) _
  | @claimed _ _ x k reader stage answer =>
    simp only [gets, answer]
    exact flow_entryCame (c := { c with consumer := k }) h c.isEnding reader
      (held?_of_claiming stage) x
  | @claimedNothing _ _ k reader stage answer =>
    simp only [gets, answer]
    exact .of_eq (readerAt_pipe (c := { c with consumer := k }) reader
      (held?_of_claiming stage) rfl)
  | readFailed reader stage answer =>
    simp only [gets, answer]
    exact flow_readerFailed h _ reader (held?_of_reading stage) _
  | read reader stage answer =>
    simp only [gets, answer]
    exact flow_entryCame h c.isEnding reader (held?_of_reading stage) _
  | readNothing reader stage answer =>
    simp only [gets, answer]
    exact .of_eq (readerAt_pipe reader (held?_of_reading stage) rfl)
  | handedOn reader input => exact flow_handOn h _ reader input
  | readerStopped reader => exact flow_readerStops h _ reader
  | took forwarder input => exact flow_take _ forwarder input
  | put forwarder output => exact flow_put _ forwarder output
  | forwarderStopped _ told => exact flow_forwarderStops who told
  | recoveryBegan =>
    refine .of_eq ?_
    simp only [pipe, readersTold_offers]
  -- the other moves of a recovery touch neither events nor readers
  | scheduled | attemptBegan | recoveryStopped => exact .of_eq rfl

/-- What a step can do to the events in a crew. -/
theorem flow_act (h : Sound c.cells) {a : Act} {e : Effect} (hact : c.act a = some e) :
    Pipe.Flow c.isEnding (c.gets a) (c.discards a) c.pipe e.1.pipe := by
  cases act_eq_some_iff.mp hact with
  | move moves => exact moves.flow h
  | publishLost | ackLost => exact .of_eq (lose_pipe _ _)
  | received line output =>
    refine .keeps rfl rfl ?_ rfl (fun o ho _ => ho) rfl rfl fun o ho _ => .inl ho
    simp [pipe, output, Pipe.track, Pipe.underWay]
  | _ => exact .of_eq rfl

end Crew
end CatalogReplica
