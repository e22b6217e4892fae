/-
# CatalogReplica.Proofs.Queue.Undecodable -- entries that are not changes

The stream may hold entries that no queue can make anything of, and they have to be passed
over. Two readings come before an entry is decoded: that of the reply, in which the names
of the fields have to be texts, and then that of the entry. What fails in the second is
dropped, and the reader goes on with the next entry. But what fails in the first fails the
whole reply, and the reader takes that for the loss of its connection.
-/
import CatalogReplica.Proofs.Delivery.Replies
import CatalogReplica.Proofs.Queue.ReadingOrder

namespace CatalogReplica

/-! ## Entries of the stream -/

namespace LogEntry

/-- The names in a list of names and values in turn. -/
def namesOf : List Octets → List Octets
  | name :: _ :: rest => name :: namesOf rest
  | _ => []

/-- An entry of the stream has fields, each with a name and a value. -/
def IsWhole (x : LogEntry) : Prop := x.values ≠ [] ∧ x.values.length % 2 = 0

instance (x : LogEntry) : Decidable x.IsWhole :=
  inferInstanceAs (Decidable (x.values ≠ [] ∧ x.values.length % 2 = 0))

/-- Whether all names of fields are texts. -/
def isNamed (x : LogEntry) : Bool := (namesOf x.values).all fun name => (Octets.text? name).isSome

/-- The event that an entry of the stream stands for, if it holds a change. -/
def event? (x : LogEntry) : Option Event := x.change?.map fun change => ⟨x.id, change⟩

theorem isSome_ofAlternating? : ∀ (values : List Octets) (fields : Fields),
    values.length % 2 = 0 →
      (Fields.ofAlternating? Reply.text? (values.map .bulk) fields).isSome =
        (namesOf values).all fun name => (Octets.text? name).isSome
  | [], _, _ => rfl
  | [_], _, heven => by cases heven
  | name :: value :: rest, fields, heven => by
    have hrest : rest.length % 2 = 0 := by
      simp only [List.length_cons] at heven
      omega
    simp only [List.map_cons, Fields.ofAlternating?, Reply.text?, namesOf, List.all_cons]
    cases Octets.text? name with
    | none => rfl
    | some text => exact isSome_ofAlternating? rest _ hrest

/-- The fields of an entry can be read if the names can. -/
theorem isSome_fields? {x : LogEntry} (h : x.IsWhole) : x.fields?.isSome = x.isNamed :=
  isSome_ofAlternating? x.values ∅ h.2

/-- The event of an entry, whatever the reply says about its delivery. -/
theorem event?_of_fields {x : LogEntry} {fields : Fields} (h : x.fields? = some fields)
    (redelivered : Bool) : (Entry.mk x.id.text fields redelivered).event? = x.event? := by
  have hsame : Entry.decode ⟨x.id.text, fields, redelivered⟩ =
      Entry.decode ⟨x.id.text, fields, false⟩ := rfl
  unfold Entry.event? event? LogEntry.change?
  rw [hsame, h, Option.bind_some]
  cases hdecode : Entry.decode ⟨x.id.text, fields, false⟩ with
  | error f => rfl
  | ok found =>
    obtain ⟨id, change⟩ := found
    have hid : id = x.id := Entry.id_of_decode rfl hdecode
    rw [hid]
    rfl

end LogEntry

namespace Crew

/-! ## The two ways to an entry -/

/-- How a reader gets an entry, by a claim or by a read, with what else is in the reply. -/
inductive Route where
  | claim (cursor : String) (rest : List Reply)
  | read (key : String)

namespace Route

/-- Where the reader waits for the entry. -/
def stage : Route → Stage
  | claim .. => .claiming
  | read _ => .reading

/-- The move that reports the reply with an entry. -/
def move (x : LogEntry) : Route → Queue.Move
  | claim cursor rest => .claimAnswered (.answered (.array
      (.bulk (Octets.ofString cursor) :: .array [x.reply] :: rest)))
  | read key => .readAnswered (.answered (.array [.array [.bulk (Octets.ofString key),
      .array [x.reply]]]))

/-- The answer to a claim that has found nothing. -/
def nothing : Outcome := .answered (.array [.bulk (Octets.ofString "0-0"), .array []])

/-- How a reader comes to wait for the entry: a read is asked for only when there is nothing
to be claimed. -/
def asking : Route → List Act
  | claim .. => [.move 0 .readerAsked]
  | read _ => [.move 0 .readerAsked, .move 0 (.claimAnswered nothing)]

/-- What happens from one entry to the next: the reader asks, and gets the entry. -/
def acts (x : LogEntry) (route : Route) : List Act := route.asking ++ [.move 0 (route.move x)]

/-- Claimed entries count as delivered before. -/
def isClaim : Route → Bool
  | claim .. => true
  | read _ => false

/-- The consumer after the reply. -/
def next (k : Consumer) : Route → Consumer
  | claim cursor _ => { k with cursor := cursor }
  | read _ => k

end Route

variable {c : Crew} {who : Nat} {r : ReadingTask} {x : LogEntry}

theorem claimed_entry {fields : Fields} (h : x.fields? = some fields) (k : Consumer)
    (cursor : String) (rest : List Reply) :
    k.claimed (.answered (.array (.bulk (Octets.ofString cursor) :: .array [x.reply] :: rest))) =
      .ok (some ⟨x.id.text, fields, true⟩, { k with cursor := cursor }) := by
  simp [Consumer.claimed, Outcome.reply, bind, Except.bind, Claimed.ofReply_one, x.entry_reply, h,
    Except.map]

theorem claimed_unnamed (h : x.fields? = none) (k : Consumer) (cursor : String)
    (rest : List Reply) :
    k.claimed (.answered (.array (.bulk (Octets.ofString cursor) :: .array [x.reply] :: rest))) =
      .error (.decode (.claimReply .badFields)) := by
  simp [Consumer.claimed, Outcome.reply, bind, Except.bind, Claimed.ofReply_one, x.entry_reply, h,
    Except.map]

theorem claimed_nothing (k : Consumer) :
    k.claimed Route.nothing = .ok (none, { k with cursor := "0-0" }) := by
  simp [Route.nothing, Consumer.claimed, Outcome.reply, bind, Except.bind, Claimed.ofReply,
    Reply.text?_ofString, Claimed.entryList, Except.map]

theorem read_entry {fields : Fields} (h : x.fields? = some fields) (key : String) :
    Consumer.read (.answered (.array [.array [.bulk (Octets.ofString key), .array [x.reply]]])) =
      .ok (some ⟨x.id.text, fields, false⟩) := by
  simp [Consumer.read, Outcome.value, Outcome.reply, bind, Except.bind, Log.entry?_row, h]

theorem read_unnamed (h : x.fields? = none) (key : String) :
    Consumer.read (.answered (.array [.array [.bulk (Octets.ofString key), .array [x.reply]]])) =
      .error (.service "XREADGROUP" .replyType) := by
  simp [Consumer.read, Outcome.value, Outcome.reply, bind, Except.bind, Log.entry?_row, h]

/-! ## One entry -/

/-- The crew after the reader got an entry on one of the ways. -/
def given (c : Crew) (who : Nat) (r : ReadingTask) (route : Route) (e : Entry) : Crew :=
  { c with consumer := route.next c.consumer }.entryCame who r e

/-- An entry whose names are texts is got, whatever else it holds. -/
theorem move_of_named (hr : c.readers[who]? = some r) {route : Route}
    (hstage : r.stage = route.stage) {fields : Fields} (hx : x.fields? = some fields) :
    c.move who (route.move x) =
      some (c.given who r route ⟨x.id.text, fields, route.isClaim⟩, []) := by
  cases route with
  | claim cursor rest =>
    exact move_eq_some_iff.mpr (.claimed hr hstage (claimed_entry hx c.consumer cursor rest))
  | read key =>
    exact move_eq_some_iff.mpr (.read hr hstage (read_entry hx key))

/-- An entry with a name that is not a text fails the reader. -/
theorem move_of_unnamed (hr : c.readers[who]? = some r) {route : Route}
    (hstage : r.stage = route.stage) (hx : x.fields? = none) :
    ∃ f, c.move who (route.move x) = some (c.readerFailed who f, []) := by
  cases route with
  | claim cursor rest =>
    exact ⟨_, move_eq_some_iff.mpr
      (.claimFailed hr hstage (claimed_unnamed hx c.consumer cursor rest))⟩
  | read key =>
    exact ⟨_, move_eq_some_iff.mpr (.readFailed hr hstage (read_unnamed hx key))⟩

theorem held?_stage (route : Route) : route.stage.held? = none := by
  cases route <;> rfl

theorem decode_of_event?_eq_none {e : Entry} (h : e.event? = none) :
    ∃ fault, e.decode = .error fault := by
  unfold Entry.event? at h
  split at h
  case h_1 => cases h
  case h_2 fault hdecode => exact ⟨fault, hdecode⟩

theorem given_cells (hr : c.readers[who]? = some r) (route : Route) (e : Entry) :
    (c.given who r route e).cells = c.cells :=
  entryCame_cells (c := { c with consumer := route.next c.consumer }) hr e

/-- The counter of the entries that were dropped. -/
def decodeFailures (c : Crew) : MetricKey :=
  ⟨"catalog_queue_decode_failures_total", [("stream", c.consumer.streamKey)]⟩

theorem next_streamKey (route : Route) (k : Consumer) : (route.next k).streamKey = k.streamKey := by
  cases route <;> rfl

/-- What an entry that cannot be decoded leaves behind: a notice and a count. -/
theorem given_of_undecodable {route : Route} (hr : c.readers[who]? = some r)
    (hstage : r.stage = route.stage) {e : Entry} (he : e.event? = none) :
    let c' := c.given who r route e
    c'.readers = c.readers.set who { r with stage := .between } ∧ c'.resume = c.resume ∧
      c'.pipe = c.pipe ∧ c'.notices = c.notices ++ [.entryDropped] ∧
      c'.measurements = c.measurements ++ [.undecodable c.consumer.streamKey] := by
  obtain ⟨fault, hdecode⟩ := decode_of_event?_eq_none he
  have hempty : r.stage.held? = none := hstage ▸ held?_stage route
  have hpipe : (({ c with consumer := route.next c.consumer } : Crew).readerAt who r
      .between).pipe = c.pipe :=
    readerAt_pipe (c := { c with consumer := route.next c.consumer }) hr hempty rfl
  simp only [given, entryCame, hdecode, next_streamKey]
  exact ⟨rfl, rfl, hpipe, rfl, rfl⟩

/-- An entry takes its place at the end of the track if it can be decoded. -/
theorem given_track {route : Route} (hreaders : c.readers = [r]) (hstage : r.stage = route.stage)
    (e : Entry) :
    (c.given 0 r route e).pipe.track.map Numbered.event =
        c.pipe.track.map Numbered.event ++ e.event?.toList ∧
      ∃ stage, (c.given 0 r route e).readers = [{ r with stage := stage }] ∧
        (stage = .between ∨ ∃ n, stage = .offering n) := by
  have hempty : r.stage.held? = none := hstage ▸ held?_stage route
  unfold given entryCame Entry.event?
  cases e.decode with
  | error f =>
    refine ⟨?_, .between, ?_, .inl rfl⟩
    · simp [measure, notify, readerAt, pipe, hreaders, ReadingTask.offer, hempty, Pipe.track,
        Pipe.underWay]
    · simp [measure, notify, readerAt, hreaders]
  | ok found =>
    obtain ⟨id, change⟩ := found
    refine ⟨?_, .offering ⟨c.readings.length, ⟨id, change⟩⟩, ?_, .inr ⟨_, rfl⟩⟩
    · simp [measure, read, readerAt, pipe, hreaders, ReadingTask.offer, hempty, Pipe.track,
        Pipe.underWay]
    · simp [measure, read, readerAt, hreaders]

/-! ## Passing on -/

/-- A reader once it is rid of the event that it holds. -/
def ReadingTask.atRest (t : ReadingTask) : ReadingTask :=
  match t.stage with
  | .offering _ => { t with stage := .between }
  | _ => t

theorem atRest_of_held?_eq_none {t : ReadingTask} (h : t.stage.held? = none) : t.atRest = t := by
  obtain ⟨k, stage, stopping⟩ := t
  cases stage with
  | offering n => cases h
  | _ => rfl

/-- To pass events on leaves the cells as they are, and the readers but for what they hold. -/
theorem passing_act {a : Act} (ha : a.isPassing = true) {e : Effect} (hact : c.act a = some e) :
    e.1.cells = c.cells ∧
      e.1.readers.map ReadingTask.atRest = c.readers.map ReadingTask.atRest := by
  cases act_eq_some_iff.mp hact with
  | move moves =>
    cases moves with
    | @handedOn k n stopping _ reader =>
      have htags : (c.readers.set _ ⟨k, .between, stopping⟩).map ReadingTask.tag =
          c.readers.map ReadingTask.tag := map_set_eq reader rfl
      have hrest : (c.readers.set _ ⟨k, .between, stopping⟩).map ReadingTask.atRest =
          c.readers.map ReadingTask.atRest := map_set_eq reader rfl
      refine ⟨?_, hrest⟩
      simp only [cells, htags]
    | took | put => exact ⟨rfl, rfl⟩
    | _ => cases ha
  | waits | received => exact ⟨rfl, rfl⟩
  | _ => cases ha

theorem passing_run {as : List Act} (has : ∀ a ∈ as, a.isPassing = true) {c' : Crew}
    (hrun : c.run as = some c') :
    c'.cells = c.cells ∧
      c'.readers.map ReadingTask.atRest = c.readers.map ReadingTask.atRest := by
  refine foldlM_preserves (P := fun d => d.cells = c.cells ∧
    d.readers.map ReadingTask.atRest = c.readers.map ReadingTask.atRest) ?_ ⟨rfl, rfl⟩ hrun
  rintro a ha d d' ⟨hcells, hreaders⟩ hact
  obtain ⟨e, he, rfl⟩ := Option.map_eq_some_iff.mp hact
  obtain ⟨hcells', hreaders'⟩ := passing_act (has a ha) he
  exact ⟨hcells'.trans hcells, hreaders'.trans hreaders⟩

/-- A crew whose only reader is about to ask, or holds an event, can pass on all that is
under way, and then the reader is about to ask. -/
theorem comes_to_rest (h : Reachable c) (hon : c.isEnding = false) {stage : Stage}
    (hreaders : c.readers = [{ r with stage := stage }])
    (hstage : stage = .between ∨ ∃ n, stage = .offering n) :
    ∃ as c', (∀ a ∈ as, a.isPassing = true) ∧ c.run as = some c' ∧ c'.cells = c.cells ∧
      c'.readers = [{ r with stage := .between }] ∧ c'.pipe.track = c.pipe.track ∧
      c'.pipe.underWay = [] := by
  obtain ⟨c', hpasses, hempty⟩ := h.passes_all hon
  obtain ⟨as, hpassing, hrun⟩ := hpasses.acts
  obtain ⟨hcells, hrest⟩ := passing_run hpassing hrun
  have hreader : ({ r with stage := stage } : ReadingTask).atRest =
      { r with stage := .between } := by
    rcases hstage with rfl | ⟨n, rfl⟩ <;> rfl
  rw [hreaders, List.map_singleton, hreader] at hrest
  obtain ⟨t, ht, hresting⟩ := List.map_eq_singleton_iff.mp hrest
  have hheld : t.stage.held? = none := by
    simp only [Pipe.underWay, List.append_eq_nil_iff] at hempty
    simpa [pipe, ht, ReadingTask.offer] using hempty.2.2.2
  rw [atRest_of_held?_eq_none hheld] at hresting
  rw [hresting] at ht
  exact ⟨as, c', hpassing, hrun, hcells, ht, hpasses.track, hempty⟩

/-! ## The entries that follow -/

theorem run_append {as bs : List Act} {d : Crew} (h : c.run as = some d) :
    c.run (as ++ bs) = d.run bs := foldlM_append_of_some h bs

/-- A reader that is about to ask comes to wait for an entry on either way. -/
theorem run_asking (hreaders : c.readers = [r]) (hstage : r.stage = .between) (route : Route) :
    ∃ d, c.run route.asking = some d ∧ d.cells = c.cells ∧ d.pipe = c.pipe ∧
      d.readers = [{ r with stage := route.stage }] := by
  have hr : c.readers[0]? = some r := by rw [hreaders]; rfl
  have hempty : r.stage.held? = none := by rw [hstage]; rfl
  have hasked : c.act (.move 0 .readerAsked) =
      some (c.readerAt 0 r .claiming, [c.consumer.claimCommand]) :=
    act_eq_some_iff.mpr (.move (.asked hr hstage))
  have hcells : (c.readerAt 0 r .claiming).cells = c.cells := readerAt_cells hr _
  have hpipe : (c.readerAt 0 r .claiming).pipe = c.pipe := readerAt_pipe hr hempty rfl
  have hclaiming : (c.readerAt 0 r .claiming).readers = [{ r with stage := .claiming }] := by
    simp [readerAt, hreaders]
  cases route with
  | claim cursor rest =>
    refine ⟨_, ?_, hcells, hpipe, hclaiming⟩
    simp [run, Route.asking, hasked]
  | read key =>
    let d := c.readerAt 0 r .claiming
    let t : ReadingTask := { r with stage := .claiming }
    let d' : Crew := { d with consumer := { d.consumer with cursor := "0-0" } }
    have ht : d.readers[0]? = some t := by rw [show d.readers = [t] from hclaiming]; rfl
    have hfound : d.act (.move 0 (.claimAnswered Route.nothing)) =
        some (d'.readerAt 0 t .reading, [d'.consumer.readCommand]) :=
      act_eq_some_iff.mpr (.move (.claimedNothing ht rfl (claimed_nothing d.consumer)))
    refine ⟨d'.readerAt 0 t .reading, ?_, ?_, ?_, ?_⟩
    · simp [run, Route.asking, hasked, hfound, d]
    · exact (readerAt_cells (c := d') ht _).trans hcells
    · exact (readerAt_pipe (c := d') ht rfl rfl).trans hpipe
    · show d.readers.set 0 { t with stage := .reading } = _
      rw [show d.readers = [t] from hclaiming]
      rfl

/-- A reader that is about to ask can be given any entry whose names are texts. -/
theorem run_acts (hreaders : c.readers = [r]) (hstage : r.stage = .between) (hx : x.IsWhole)
    (hnamed : x.isNamed = true) (route : Route) :
    ∃ d, c.run (route.acts x) = some d ∧ d.cells = c.cells ∧
      d.pipe.track.map Numbered.event = c.pipe.track.map Numbered.event ++ x.event?.toList ∧
      ∃ stage, d.readers = [{ r with stage := stage }] ∧
        (stage = .between ∨ ∃ n, stage = .offering n) := by
  obtain ⟨fields, hfields⟩ :=
    Option.isSome_iff_exists.mp ((LogEntry.isSome_fields? hx).trans hnamed)
  obtain ⟨d, hasking, hcells, hpipe, hreader⟩ := run_asking hreaders hstage route
  have ht : d.readers[0]? = some { r with stage := route.stage } := by rw [hreader]; rfl
  have hasked : ({ r with stage := route.stage } : ReadingTask).stage = route.stage := rfl
  have hmove := move_of_named ht hasked hfields
  obtain ⟨htrack, hgiven⟩ := given_track hreader hasked ⟨x.id.text, fields, route.isClaim⟩
  rw [LogEntry.event?_of_fields hfields, hpipe] at htrack
  refine ⟨_, ?_, (given_cells ht route _).trans hcells, htrack, hgiven⟩
  rw [Route.acts, run_append hasking]
  simp [run, act, hmove]

/-- However many entries follow, and whichever of them can be decoded: as long as their names
are texts each of them is read, and callers receive, in this order, what is under way and
what the entries hold. Apart from the replies with these entries the service has nothing
to do for it. -/
theorem reads_on (h : Reachable c) (hon : c.isEnding = false) (hreaders : c.readers = [r])
    (hstage : r.stage = .between) {following : List (Route × LogEntry)}
    (hfollowing : ∀ d ∈ following, d.2.IsWhole ∧ d.2.isNamed = true) :
    ∃ as c', c.run as = some c' ∧
      as.filter (fun a => !a.isPassing) = following.flatMap (fun d => d.1.acts d.2) ∧
      c'.cells = c.cells ∧
      c'.received.map (·.item.event) =
        c.pipe.track.map Numbered.event ++ following.filterMap fun d => d.2.event? := by
  induction following generalizing c r with
  | nil =>
    have hrest : c.readers = [{ r with stage := .between }] := by rw [hreaders, ← hstage]
    obtain ⟨as, c', hpassing, hrun, hcells, -, htrack, hempty⟩ :=
      comes_to_rest h hon hrest (.inl rfl)
    refine ⟨as, c', hrun, ?_, hcells, ?_⟩
    · apply List.filter_eq_nil_iff.mpr
      intro a ha
      simp [hpassing a ha]
    · rw [Pipe.track, hempty, List.append_nil] at htrack
      rw [← htrack]
      simp [pipe]
  | cons x following ih =>
    obtain ⟨hwhole, hnamed⟩ := hfollowing x List.mem_cons_self
    obtain ⟨d, hgets, hcells, htrack, stage, hreader, hgot⟩ :=
      run_acts hreaders hstage hwhole hnamed x.1
    have hd : Reachable d := h.run hgets
    have hon' : d.isEnding = false := by
      show d.cells.isEnding = false
      rw [hcells]
      exact hon
    obtain ⟨as, d', hpassing, hrun, hcells', hrest, htrack', -⟩ :=
      comes_to_rest hd hon' hreader hgot
    have hon'' : d'.isEnding = false := by
      show d'.cells.isEnding = false
      rw [hcells']
      exact hon'
    obtain ⟨bs, c', hrun', hfilter, hcells'', hreceived⟩ :=
      ih (hd.run hrun) hon'' hrest rfl fun y hy => hfollowing y (List.mem_cons_of_mem x hy)
    refine ⟨x.1.acts x.2 ++ (as ++ bs), c', ?_, ?_, ?_, ?_⟩
    · rw [run_append hgets, run_append hrun, hrun']
    · have hnone : as.filter (fun a => !a.isPassing) = [] := by
        apply List.filter_eq_nil_iff.mpr
        intro a ha
        simp [hpassing a ha]
      have hacts : (x.1.acts x.2).filter (fun a => !a.isPassing) = x.1.acts x.2 := by
        cases x.1 <;> rfl
      rw [List.filter_append, List.filter_append, hnone, hacts, hfilter]
      rfl
    · exact hcells''.trans (hcells'.trans hcells)
    · rw [hreceived, htrack', htrack, List.filterMap_cons]
      cases x.2.event? <;> simp

/-! ## Entries that cannot be decoded -/

theorem counter_undecodable (ms : Measurements) (stream : String) :
    Measurements.counter (ms ++ [.undecodable stream])
        ⟨"catalog_queue_decode_failures_total", [("stream", stream)]⟩ =
      (Measurements.counter ms
        ⟨"catalog_queue_decode_failures_total", [("stream", stream)]⟩ + 1) % word := by
  have hone : Measurements.counter [.undecodable stream]
      ⟨"catalog_queue_decode_failures_total", [("stream", stream)]⟩ = 1 := by
    simp [Measurements.counter, Measurements.samples, Measurement.samples, Measurements.total,
      word]
  rw [Measurements.counter_append, hone]

/-- A reader that fails while the crew is connected ends, and a recovery starts. -/
theorem readerFailed_of_connected (h : Reachable c) (hr : c.readers[who]? = some r)
    (hopen : c.isClosing = false) (hconnected : c.state = .connected) (f : Failure) :
    let c' := c.readerFailed who f
    c'.state = .reconnecting ∧ c'.readers = [] ∧ c'.recoveries = [.started] ∧
      c'.resume = c.resume := by
  obtain ⟨rfl, hreaders⟩ := h.sound.only_reader hr
  cases h.sound.phase with
  | linked created state connected unreported unrecovered =>
    have hunreported : c.isLossReported = false := unreported
    have hunrecovered : c.recoveries = [] := unrecovered
    simp [readerFailed, lose, hopen, hunreported, hreaders, hunrecovered, enter, measure, notify]
  | closing created single closing => exact absurd closing (Bool.eq_false_iff.mp hopen)
  -- in the other phases the state is another one
  | starting first state => cases hconnected.symm.trans state
  | recovering t recovering => cases hconnected.symm.trans recovering.state
  | stopped created state => cases hconnected.symm.trans state

/-- An entry that cannot be decoded, in answer to a claim or to a read, whatever octets it
is made of. If the names of its fields are texts, it is dropped: nothing is sent, so it is
not acknowledged; the state, the connections and the tasks stay as they are, and so do the
position and all events under way; the entry is noted and counted, and the reader is about
to ask for the next one. Unless the crew has been told to end, it reads all that follows,
and callers receive it. If a name is not a text, the reader takes the reply for the loss
of its connection, and another one is made. -/
theorem undecodable_dropped_if_named (h : Reachable c) (hr : c.readers[who]? = some r)
    {route : Route} (hstage : r.stage = route.stage) (hx : x.IsWhole)
    (hundecodable : x.change? = none) :
    (x.isNamed = true → ∃ c', c.act (.move who (route.move x)) = some (c', []) ∧
      c'.cells = c.cells ∧ c'.readers = [{ r with stage := .between }] ∧
      c'.resume = c.resume ∧ c'.pipe = c.pipe ∧ c'.notices = c.notices ++ [.entryDropped] ∧
      c'.measurements.counter c.decodeFailures =
        (c.measurements.counter c.decodeFailures + 1) % word ∧
      (c.isEnding = false → ∀ following : List (Route × LogEntry),
        (∀ d ∈ following, d.2.IsWhole ∧ d.2.isNamed = true) →
        ∃ as c'', c'.run as = some c'' ∧
          as.filter (fun a => !a.isPassing) = following.flatMap (fun d => d.1.acts d.2) ∧
          c''.cells = c.cells ∧
          c''.received.map (·.item.event) =
            c.pipe.track.map Numbered.event ++ following.filterMap fun d => d.2.event?)) ∧
    (x.isNamed = false → c.isClosing = false → c.state = .connected →
      ∃ c', c.act (.move who (route.move x)) = some (c', []) ∧
        c'.state = .reconnecting ∧ c'.readers = [] ∧ c'.recoveries = [.started] ∧
        c'.resume = c.resume) := by
  constructor
  · intro hnamed
    obtain ⟨fields, hfields⟩ :=
      Option.isSome_iff_exists.mp ((LogEntry.isSome_fields? hx).trans hnamed)
    have hevent : (Entry.mk x.id.text fields route.isClaim).event? = none := by
      rw [LogEntry.event?_of_fields hfields, LogEntry.event?, hundecodable]
      rfl
    have hmove : c.act (.move who (route.move x)) = _ := move_of_named hr hstage hfields
    obtain ⟨rfl, hreaders⟩ := h.sound.only_reader hr
    have hcells := given_cells hr route ⟨x.id.text, fields, route.isClaim⟩
    obtain ⟨hreader, hresume, hpipe, hnotices, hmeasured⟩ :=
      given_of_undecodable hr hstage hevent
    rw [hreaders] at hreader
    refine ⟨_, hmove, hcells, hreader, hresume, hpipe, hnotices, ?_, ?_⟩
    · rw [hmeasured]
      exact counter_undecodable _ _
    · intro hon following hfollowing
      have hon' : (c.given 0 r route ⟨x.id.text, fields, route.isClaim⟩).isEnding = false :=
        (congrArg Cells.isEnding hcells).trans hon
      obtain ⟨as, c'', hrun, hfilter, hcells', hreceived⟩ :=
        reads_on (h.act hmove) hon' hreader rfl hfollowing
      rw [hpipe] at hreceived
      exact ⟨as, c'', hrun, hfilter, hcells'.trans hcells, hreceived⟩
  · intro hunnamed hopen hconnected
    have hfields : x.fields? = none := by
      rw [← Option.not_isSome_iff_eq_none, LogEntry.isSome_fields? hx, hunnamed]
      decide
    obtain ⟨f, hmove⟩ := move_of_unnamed hr hstage hfields
    exact ⟨_, hmove, readerFailed_of_connected h hr hopen hconnected f⟩

/-! ## One of each kind -/

theorem two_lt_word : 2 < word := by decide

theorem one_lt_word : 1 < word := Nat.lt_of_succ_lt two_lt_word

/-- An entry without a change, which somebody else has put on the stream. -/
def strangeEntry : LogEntry :=
  ⟨⟨1, 0, one_lt_word, zero_lt_word⟩, [Octets.ofString "note", [.ofNat 255, .ofNat 254]]⟩

/-- An entry whose only name is not a text. -/
def namelessEntry : LogEntry :=
  ⟨⟨1, 0, one_lt_word, zero_lt_word⟩, [[.ofNat 255], Octets.ofString "x"]⟩

/-- An entry with a removal. -/
def removalEntry : LogEntry :=
  ⟨⟨2, 0, two_lt_word, zero_lt_word⟩, [Octets.ofString payloadField, Octets.ofString
    "\x7b\"type\":\"catalogs\",\"method\":\"delete\",\"catalog\":\x7b\"id\":\"oak\"\x7d\x7d"]⟩

/-- A reader waits for the answer to its first claim. -/
def claimingFirst : List Act := connecting ++ [.move 0 .readerAsked]

theorem after_claimingFirst :
    ∃ c, after { nodeId := "node" } claimingFirst = some c ∧
      c.readers = [⟨0, .claiming, false⟩] ∧ c.state = .connected ∧ c.isClosing = false ∧
      c.isEnding = false ∧ c.pipe.track = [] := by
  have hrun : (after { nodeId := "node" } claimingFirst).map (fun c =>
      (c.readers, c.state, c.isClosing, c.isEnding, c.pipe.track)) =
      some ([⟨0, .claiming, false⟩], .connected, false, false, []) := by
    decide +kernel
  obtain ⟨c, hc, hparts⟩ := Option.map_eq_some_iff.mp hrun
  simp only [Prod.mk.injEq] at hparts
  exact ⟨c, hc, hparts⟩

/-- The entry without a change is passed over, and the removal behind it is received. -/
theorem strange_passed_over :
    ∃ c c' c'' as, after { nodeId := "node" } claimingFirst = some c ∧
      c.act (.move 0 ((Route.claim "0-0" []).move strangeEntry)) = some (c', []) ∧
      c'.run as = some c'' ∧ c''.state = .connected ∧
      c''.received.map (·.item.event.id) = [removalEntry.id] := by
  obtain ⟨c, hc, hreaders, hstate, -, hon, htrack⟩ := after_claimingFirst
  have hr : c.readers[0]? = some ⟨0, .claiming, false⟩ := by rw [hreaders]; rfl
  have hstage : (⟨0, .claiming, false⟩ : ReadingTask).stage = (Route.claim "0-0" []).stage := rfl
  obtain ⟨hdropped, -⟩ := undecodable_dropped_if_named (x := strangeEntry)
    (reachable_of_after hc) hr hstage (by decide) (by decide +kernel)
  obtain ⟨c', hact, -, -, -, -, -, -, hreads⟩ := hdropped (by decide +kernel)
  obtain ⟨as, c'', hrun, -, hcells, hreceived⟩ :=
    hreads hon [(.read "catalogs-cluster:catalogs", removalEntry)] (by
      intro d hd
      rw [List.mem_singleton.mp hd]
      exact ⟨by decide, by decide +kernel⟩)
  have hstate' : c''.state = c.state := congrArg Cells.state hcells
  refine ⟨c, c', c'', as, hc, hact, hrun, hstate'.trans hstate, ?_⟩
  have hevent : ([(Route.read "catalogs-cluster:catalogs", removalEntry)].filterMap
      fun d => d.2.event?).map Event.id = [removalEntry.id] := by
    decide +kernel
  rw [htrack, List.map_nil, List.nil_append] at hreceived
  rw [← hevent, ← hreceived, List.map_map]
  rfl

/-- It is not so that a crew stays connected whatever an entry that cannot be decoded is made
of. -/
theorem nameless_disconnects :
    ¬ ∀ (c : Crew) (who : Nat) (r : ReadingTask) (route : Route) (x : LogEntry) (e : Effect),
      Reachable c → c.readers[who]? = some r → r.stage = route.stage → x.IsWhole →
      x.change? = none → c.isEnding = false → c.state = .connected →
      c.act (.move who (route.move x)) = some e →
      e.1.state = .connected ∧ e.1.notices = c.notices ++ [.entryDropped] := by
  intro h
  obtain ⟨c, hc, hreaders, hstate, hopen, hon, -⟩ := after_claimingFirst
  have hr : c.readers[0]? = some ⟨0, .claiming, false⟩ := by rw [hreaders]; rfl
  have hfields : namelessEntry.fields? = none := by
    rw [← Option.not_isSome_iff_eq_none, LogEntry.isSome_fields? (by decide)]
    decide +kernel
  have hstage : (⟨0, .claiming, false⟩ : ReadingTask).stage = (Route.claim "0-0" []).stage := rfl
  obtain ⟨f, hmove⟩ := move_of_unnamed hr hstage hfields
  obtain ⟨hlost, -⟩ :=
    readerFailed_of_connected (reachable_of_after hc) hr hopen hstate f
  have hstays := h c 0 _ (.claim "0-0" []) namelessEntry _ (reachable_of_after hc) hr rfl
    (by decide) (by decide +kernel) hon hstate hmove
  nomatch hlost.symm.trans hstays.1

end Crew
end CatalogReplica
