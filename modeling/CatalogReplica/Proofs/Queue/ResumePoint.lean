/-
# CatalogReplica.Proofs.Queue.ResumePoint -- where reading is taken up again

A queue keeps one position through all its connections, the greatest id that any of its
readers has decoded, in whatever order entries come. Each time it connects, its group is
put there before anything is asked for. A *journal* is a queue together with the ids that
were decoded and what was sent over each of the connections for reading, a record that no
step of the queue looks at.

What the service answers is open at every step, and so is the order in which tasks move
and callers call. To publish and to acknowledge changes a queue only when the outcome is
there, and uses the connection for publishing, so the halves that send are left out.
-/
import CatalogReplica.Proofs.Queue.Holding
import CatalogReplica.Proofs.Queue.ReadingOrder

namespace CatalogReplica

/-! ## What a move brings and sends -/

/-- The id of an entry, if the entry can be decoded. -/
def Entry.decodedId? (e : Entry) : Option EntryId :=
  match e.decode with
  | .ok (id, _) => some id
  | .error _ => none

/-- Whether a command asks for an entry: one that has stayed unacknowledged, or a new one. -/
def Command.isFetch : Command → Bool
  | .claim .. | .read .. => true
  | _ => false

/-- Whether the group of a node is there after the attempt to create it. -/
def Outcome.isGroupThere : Outcome → Bool
  | .answered _ => true
  | .refused r => r.code = "BUSYGROUP"
  | .lost _ => false

namespace Queue

/-- The entry in the outcome that a move reports, if there is one. -/
def entry? (q : Queue) : Move → Option Entry
  | .claimAnswered o =>
    match q.consumer.claimed o with
    | .ok (e, _) => e
    | .error _ => none
  | .readAnswered o =>
    match Consumer.read o with
    | .ok e => e
    | .error _ => none
  | _ => none

/-- Whether a move is that a new connection for reading is there. -/
def connects (q : Queue) : Move → Bool
  | .opened => q.attempt? = some .openingReader
  | _ => false

/-- An attempt to connect is under way, the first one or that of the recovery. -/
def Tries (q : Queue) (a : Attempt) : Prop :=
  q.firstAttempt = some a ∨ q.recovery = some (.connecting a)

end Queue

/-! ## The journal of a queue -/

/-- A command that was sent, and the ids that had been decoded by then. -/
structure Dispatch where
  command : Command
  decoded : List EntryId
  deriving DecidableEq

/-- A queue, what it has decoded, and what it has sent in order to read. -/
structure Journal where
  queue : Queue
  /-- The ids of the entries that were decoded, in the order of decoding. -/
  decoded : List EntryId
  /-- What was sent over each connection for reading, the newest connection first. -/
  connections : List (List Dispatch)

namespace Journal

/-- Notes what was sent under the newest connection. -/
def note (sent : List Dispatch) : List (List Dispatch) → List (List Dispatch)
  | [] => if sent.isEmpty then [] else [sent]
  | newest :: older => (newest ++ sent) :: older

/-- What a task did by a move is entered. -/
def enter (j : Journal) (m : Queue.Move) (e : Queue.Effect) : Journal :=
  let sent := e.2.map fun c => ⟨c, j.decoded⟩
  { queue := e.1
    decoded := j.decoded ++ ((j.queue.entry? m).bind Entry.decodedId?).toList
    connections := if j.queue.connects m then sent :: j.connections
      else note sent j.connections }

/-- A task moves. -/
def move (j : Journal) (m : Queue.Move) : Option Journal := (j.queue.move m).map (j.enter m)

/-- A caller calls. Nobody has the queue before its first attempt to connect is over. -/
def call (j : Journal) (c : Queue.Call) : Option Journal :=
  if j.queue.firstAttempt.isNone then (j.queue.call c).map fun q => { j with queue := q }
  else none

inductive Act where
  | move (m : Queue.Move)
  | call (c : Queue.Call)

/-- The journal after an act, if it is possible. -/
def act (j : Journal) : Act → Option Journal
  | .move m => j.move m
  | .call c => j.call c

/-- Acts one after another. -/
def run (j : Journal) (as : List Act) : Option Journal := as.foldlM act j

/-- What can be reached from a queue that was just created with some settings. -/
inductive Reachable (s : QueueSettings) : Journal → Prop where
  | fresh {q : Queue} (created : Queue.create s = .ok q) : Reachable s ⟨q, [], []⟩
  | act {j j' : Journal} {a : Act} (reached : Reachable s j) (happens : j.act a = some j') :
      Reachable s j'

/-! ## What holds in every journal -/

variable {s : QueueSettings} {j j' : Journal}

/-- A connection on which entries may be asked for: the group was created, then it was put
behind the greatest id that had been decoded, and nothing but asking follows. -/
inductive Placed (s : QueueSettings) : List Dispatch → Prop where
  | intro (before decoded : List EntryId) {fetches : List Dispatch}
      (fetch : ∀ d ∈ fetches, d.command.isFetch = true) :
      Placed s (⟨.createGroup s.streamKey s.nodeId, before⟩ ::
        ⟨.position s.streamKey s.nodeId decoded.max?, decoded⟩ :: fetches)

/-- What is sent over a connection for reading ends with the creation of the group, or goes
on as it has to. -/
def InOrder (s : QueueSettings) (line : List Dispatch) : Prop :=
  (∃ before, line = [⟨.createGroup s.streamKey s.nodeId, before⟩]) ∨ Placed s line

/-- What an attempt to connect knows, and what it has sent. -/
def Underway (s : QueueSettings) (j : Journal) : Attempt → Prop
  | .opening => True
  | .openingReader => True
  | .creating resume => resume = j.decoded.max? ∧ ∃ older,
      j.connections = [⟨.createGroup s.streamKey s.nodeId, j.decoded⟩] :: older
  | .positioning resume => resume = j.decoded.max? ∧ ∃ line older,
      j.connections = line :: older ∧ Placed s line

/-- Whether a recovery is done with the reader before it. -/
def isPastReader : Recovery → Bool
  | .started | .stoppingReader => false
  | .waiting | .connecting _ | .broken => true

/-- The invariant of a journal. Nothing is read while an attempt to connect is under way, so
what the attempt knows stays the greatest id. -/
structure Sound (s : QueueSettings) (j : Journal) : Prop where
  key : j.queue.consumer.streamKey = s.streamKey
  node : j.queue.consumer.nodeId = s.nodeId
  resume : j.queue.resume = j.decoded.max?
  first : ∀ a ∈ j.queue.firstAttempt, j.queue.recovery = none ∧ j.queue.reader = none
  alone : ∀ t ∈ j.queue.recovery, isPastReader t = true → j.queue.reader = none
  attempt : ∀ a, j.queue.Tries a → Underway s j a
  reading : ∀ r ∈ j.queue.reader, ∃ line older, j.connections = line :: older ∧ Placed s line
  lines : ∀ line ∈ j.connections, InOrder s line

/-! ## Ids -/

theorem max?_concat {α : Type} [Max α] (as : List α) (a : α) :
    (as ++ [a]).max? = some (match as.max? with
      | some last => max last a
      | none => a) := by
  cases as with
  | nil => rfl
  | cons b bs =>
    simp only [List.cons_append, List.max?_cons', List.foldl_append, List.foldl_cons,
      List.foldl_nil]

/-- The later of two ids is taken as it is in the order of ids. -/
theorem max?_decoded (ids : List EntryId) (id : EntryId) :
    (ids ++ [id]).max? = some (match ids.max? with
      | some last => last.max id
      | none => id) := by
  rw [max?_concat]
  cases ids.max? with
  | none => rfl
  | some last =>
    dsimp only
    rw [EntryId.max_eq]

theorem le_max?_append {ids more : List EntryId} {m : EntryId} (hm : ids.max? = some m) :
    ∃ m', (ids ++ more).max? = some m' ∧ m ≤ m' := by
  have hmem : m ∈ ids ++ more := List.mem_append_left _ (List.max?_eq_some_iff.mp hm).1
  cases hmax : (ids ++ more).max? with
  | none =>
    rw [List.max?_eq_none_iff.mp hmax] at hmem
    cases hmem
  | some m' => exact ⟨m', rfl, (List.max?_eq_some_iff.mp hmax).2 m hmem⟩

/-! ## Connections -/

@[simp]
theorem note_nil (lines : List (List Dispatch)) : note [] lines = lines := by
  cases lines with
  | nil => rfl
  | cons newest older => simp [note]

theorem Placed.fetch {line : List Dispatch} (h : Placed s line) {d : Dispatch}
    (hd : d.command.isFetch = true) : Placed s (line ++ [d]) := by
  obtain ⟨before, decoded, hfetch⟩ := h
  refine .intro before decoded ?_
  intro e he
  rcases List.mem_append.mp he with h | h
  · exact hfetch e h
  · rw [List.mem_singleton.mp h]
    exact hd

/-! ## Attempts -/

theorem tries_of_attempt? {q : Queue} {a : Attempt} (h : q.attempt? = some a) : q.Tries a := by
  unfold Queue.attempt? at h
  split at h
  case h_1 hfirst =>
    cases h
    exact .inl hfirst
  case h_2 hrecovery =>
    cases h
    exact .inr hrecovery
  case h_3 => cases h

/-- Nothing is read while an attempt is under way. -/
theorem Sound.no_reader (h : Sound s j) {a : Attempt} (ha : j.queue.Tries a) :
    j.queue.reader = none := by
  rcases ha with hfirst | hrecovery
  · exact (h.first a hfirst).2
  · exact h.alone _ hrecovery rfl

theorem Sound.no_attempt (h : Sound s j) {r : Reader} (hr : j.queue.reader = some r)
    (a : Attempt) : ¬ j.queue.Tries a := by
  intro ha
  rw [h.no_reader ha] at hr
  cases hr

theorem goOn_of_first {q : Queue} {b : Attempt} (h : q.firstAttempt = some b) (a : Attempt) :
    q.goOn a = { q with firstAttempt := some a } := by
  simp [Queue.goOn, h]

theorem goOn_of_none {q : Queue} (h : q.firstAttempt = none) (a : Attempt) :
    q.goOn a = { q with recovery := some (.connecting a) } := by
  simp [Queue.goOn, h]

theorem Sound.goOn (h : Sound s j) {b : Attempt} (hb : j.queue.Tries b) {a : Attempt}
    {lines : List (List Dispatch)} (ha : Underway s { j with connections := lines } a)
    (hlines : ∀ line ∈ lines, InOrder s line) :
    Sound s { j with queue := j.queue.goOn a, connections := lines } := by
  have hnone : j.queue.reader = none := h.no_reader hb
  cases hfirst : j.queue.firstAttempt with
  | some f =>
    have hrecovery : j.queue.recovery = none := (h.first f hfirst).1
    rw [goOn_of_first hfirst]
    refine { h with first := ?_, attempt := ?_, reading := ?_, lines := hlines }
    · exact fun _ _ => ⟨hrecovery, hnone⟩
    · rintro c (hc | hc)
      · cases hc
        exact ha
      · nomatch hrecovery.symm.trans hc
    · intro r hr
      nomatch hnone.symm.trans hr
  | none =>
    rw [goOn_of_none hfirst]
    refine { h with first := ?_, alone := ?_, attempt := ?_, reading := ?_, lines := hlines }
    · intro f hf
      nomatch hfirst.symm.trans hf
    · exact fun _ _ _ => hnone
    · rintro c (hc | hc)
      · nomatch hfirst.symm.trans hc
      · cases hc
        exact ha
    · intro r hr
      nomatch hnone.symm.trans hr

theorem Sound.lose (h : Sound s j) (hfirst : j.queue.firstAttempt = none) (f : Failure) :
    Sound s { j with queue := j.queue.lose f } := by
  unfold Queue.lose
  split
  case isTrue => exact h
  case isFalse =>
    refine { h with first := ?_, alone := ?_, attempt := ?_ }
    · intro a ha
      nomatch hfirst.symm.trans ha
    · intro t ht hpast
      cases ht
      cases hpast
    · rintro a (ha | ha)
      · nomatch hfirst.symm.trans ha
      · cases ha

/-- An attempt that has failed leaves the queue with no attempt under way. -/
theorem Sound.attemptFailed (h : Sound s j) {b : Attempt} (hb : j.queue.Tries b) (f : Failure) :
    Sound s { j with queue := j.queue.attemptFailed f } := by
  have hnone : j.queue.reader = none := h.no_reader hb
  cases hfirst : j.queue.firstAttempt with
  | some a =>
    -- the first attempt is over, and that counts as a loss
    have hrecovery : j.queue.recovery = none := (h.first a hfirst).1
    let past : Queue := { j.queue.measure (.connectionAttempt false) with firstAttempt := none }
    have hover : Sound s { j with queue := past.notify .firstConnectionFailed } := by
      refine { h with first := ?_, attempt := ?_ }
      · intro c hc
        cases hc
      · rintro c (hc | hc)
        · cases hc
        · cases hrecovery.symm.trans hc
    have hfailed : j.queue.attemptFailed f = (past.notify .firstConnectionFailed).lose f := by
      simp [Queue.attemptFailed, Queue.measure, hfirst, past]
    rw [hfailed]
    exact hover.lose rfl f
  | none =>
    have hfailed : j.queue.attemptFailed f =
        { j.queue.measure (.connectionAttempt false) with recovery := some .waiting }.notify
          .reconnectFailed := by
      simp [Queue.attemptFailed, Queue.measure, hfirst]
    rw [hfailed]
    refine { h with first := ?_, alone := ?_, attempt := ?_ }
    · intro c hc
      cases hfirst.symm.trans hc
    · exact fun _ _ _ => hnone
    · rintro c (hc | hc)
      · cases hfirst.symm.trans hc
      · cases hc

/-- A reader starts where entries may be asked for. -/
theorem Sound.attemptSucceeded (h : Sound s j) {b : Attempt} (hb : j.queue.Tries b)
    (hplaced : j.queue.settings.writeOnly = false →
      ∃ line older, j.connections = line :: older ∧ Placed s line) :
    Sound s { j with queue := j.queue.attemptSucceeded } := by
  have hnone : j.queue.reader = none := h.no_reader hb
  unfold Queue.attemptSucceeded
  dsimp only
  split
  case isTrue =>
    refine { h with first := ?_, alone := ?_, attempt := ?_ }
    · intro a ha
      cases ha
    · intro t ht
      cases ht
    · rintro a (ha | ha) <;> cases ha
  case isFalse =>
    refine { h with first := ?_, alone := ?_, attempt := ?_, reading := ?_ }
    · intro a ha
      cases ha
    · intro t ht
      cases ht
    · rintro a (ha | ha) <;> cases ha
    · intro r hr
      apply hplaced
      cases hwrite : j.queue.settings.writeOnly with
      | false => rfl
      | true => simp [Queue.enter, Queue.measure, hwrite] at hr

/-! ## Moves that connect -/

/-- Of a move that brings no entry and no connection, only the commands are noted. -/
theorem enter_apart {m : Queue.Move} (hentry : j.queue.entry? m = none)
    (hconnects : j.queue.connects m = false) (e : Queue.Effect) :
    j.enter m e = { j with
      queue := e.1
      connections := note (e.2.map fun c => ⟨c, j.decoded⟩) j.connections } := by
  simp [enter, hentry, hconnects]

theorem enter_silent {m : Queue.Move} (hentry : j.queue.entry? m = none)
    (hconnects : j.queue.connects m = false) (q : Queue) :
    j.enter m (q, []) = { j with queue := q } := by
  rw [enter_apart hentry hconnects, List.map_nil, note_nil]

theorem enter_entry {m : Queue.Move} {x : Entry} (hentry : j.queue.entry? m = some x)
    (hconnects : j.queue.connects m = false) (q : Queue) :
    j.enter m (q, []) =
      { j with queue := q, decoded := j.decoded ++ x.decodedId?.toList } := by
  simp [enter, hentry, hconnects]

/-- A new connection begins with the creation of the group. -/
theorem Sound.openedSecond (h : Sound s j) (hattempt : j.queue.attempt? = some .openingReader) :
    Sound s (j.enter .opened
      (j.queue.goOn (.creating j.queue.resume), [j.queue.consumer.createCommand])) := by
  have htries : j.queue.Tries .openingReader := tries_of_attempt? hattempt
  have hconnects : j.queue.connects .opened = true := by simp [Queue.connects, hattempt]
  simp only [enter, Queue.entry?, hconnects, List.map_cons, List.map_nil, Option.bind_none,
    Option.toList_none, List.append_nil, if_true, Consumer.createCommand, h.key, h.node]
  refine h.goOn htries ⟨h.resume, _, rfl⟩ ?_
  intro line hline
  rcases List.mem_cons.mp hline with rfl | hline
  · exact .inl ⟨_, rfl⟩
  · exact h.lines line hline

theorem created_eq_ok_iff {o : Outcome} :
    Consumer.created o = .ok () ↔ o.isGroupThere = true := by
  cases o with
  | answered reply => simp [Consumer.created, Outcome.isGroupThere, Outcome.reply, Except.map]
  | refused r =>
    by_cases hbusy : r.code = "BUSYGROUP"
    · simp [Consumer.created, Outcome.isGroupThere, hbusy]
    · simp [Consumer.created, Outcome.isGroupThere, hbusy, Outcome.reply, Except.map]
  | lost reason => simp [Consumer.created, Outcome.isGroupThere, Outcome.reply, Except.map]

/-- Once the group is there it is put behind the greatest id. -/
theorem Sound.positionCommand (h : Sound s j) {resume : Option EntryId}
    (hattempt : j.queue.attempt? = some (.creating resume)) :
    j.queue.consumer.positionCommand resume =
      .position s.streamKey s.nodeId j.decoded.max? := by
  have hresume : resume = j.decoded.max? := (h.attempt _ (tries_of_attempt? hattempt)).1
  rw [Consumer.positionCommand, h.key, h.node, hresume]

theorem Sound.created (h : Sound s j) {o : Outcome} {resume : Option EntryId}
    (hattempt : j.queue.attempt? = some (.creating resume)) :
    Sound s (j.enter (.prepared o) (j.queue.goOn (.positioning resume),
      [j.queue.consumer.positionCommand resume])) := by
  have htries : j.queue.Tries (.creating resume) := tries_of_attempt? hattempt
  obtain ⟨hresume, older, hnewest⟩ := h.attempt _ htries
  have hplaced : Placed s [⟨.createGroup s.streamKey s.nodeId, j.decoded⟩,
      ⟨.position s.streamKey s.nodeId j.decoded.max?, j.decoded⟩] :=
    .intro j.decoded j.decoded fun d hd => by cases hd
  rw [h.positionCommand hattempt, enter_apart rfl rfl, hnewest]
  refine h.goOn htries ⟨hresume, _, older, rfl, hplaced⟩ ?_
  intro line hline
  rcases List.mem_cons.mp hline with rfl | hline
  · exact .inr hplaced
  · apply h.lines line
    rw [hnewest]
    exact List.mem_cons_of_mem _ hline

/-! ## Moves of the reader -/

/-- The reader goes on. -/
theorem Sound.withReader (h : Sound s j) {r : Reader} (hr : j.queue.reader = some r)
    (r' : Reader) : Sound s { j with queue := { j.queue with reader := some r' } } := by
  refine { h with first := ?_, alone := ?_, reading := ?_ }
  · intro a ha
    nomatch (h.first a ha).2.symm.trans hr
  · intro t ht hpast
    nomatch (h.alone t ht hpast).symm.trans hr
  · exact fun _ _ => h.reading r hr

/-- The reader ends. -/
theorem Sound.withoutReader (h : Sound s j) :
    Sound s { j with queue := { j.queue with reader := none } } := by
  refine { h with first := ?_, alone := ?_, reading := ?_ }
  · exact fun a ha => ⟨(h.first a ha).1, rfl⟩
  · exact fun _ _ _ => rfl
  · intro r hr
    cases hr

/-- The reader asks for an entry. -/
theorem Sound.fetches (h : Sound s j) {r : Reader} (hr : j.queue.reader = some r) {d : Dispatch}
    (hd : d.command.isFetch = true) :
    Sound s { j with connections := note [d] j.connections } := by
  obtain ⟨line, older, hnewest, hplaced⟩ := h.reading r hr
  rw [hnewest]
  refine { h with attempt := ?_, reading := ?_, lines := ?_ }
  · exact fun a ha => absurd ha (h.no_attempt hr a)
  · exact fun _ _ => ⟨_, older, rfl, hplaced.fetch hd⟩
  · intro l hl
    rcases List.mem_cons.mp hl with rfl | hl
    · exact .inr (hplaced.fetch hd)
    · apply h.lines l
      rw [hnewest]
      exact List.mem_cons_of_mem _ hl

theorem Sound.readerFailed (h : Sound s j) {r : Reader} (hr : j.queue.reader = some r)
    (f : Failure) : Sound s { j with queue := j.queue.readerFailed f } := by
  refine h.withoutReader.lose ?_ f
  cases hfirst : j.queue.firstAttempt with
  | none => rfl
  | some a => nomatch (h.first a hfirst).2.symm.trans hr

/-- An entry moves the position if it can be decoded, and only then. -/
theorem Sound.entryCame (h : Sound s j) {r : Reader} (hr : j.queue.reader = some r) (e : Entry) :
    Sound s { j with
      queue := j.queue.entryCame r e
      decoded := j.decoded ++ e.decodedId?.toList } := by
  unfold Queue.entryCame Entry.decodedId?
  dsimp only
  cases e.decode with
  | error fault =>
    simp only [Option.toList_none, List.append_nil]
    exact { h.withReader hr { r with stage := .between } with }
  | ok found =>
    obtain ⟨id, change⟩ := found
    refine { h.withReader hr { r with stage := .offering ⟨id, change⟩ } with
      resume := ?_, attempt := ?_ }
    · have hlatest := congrArg (fun latest : Option EntryId => some (match latest with
        | some last => last.max id
        | none => id)) h.resume
      exact hlatest.trans (max?_decoded j.decoded id).symm
    · exact fun a ha => absurd ha (h.no_attempt hr a)

/-- A claim that was answered moves the cursor, on which no other command depends. -/
theorem Sound.withCursor (h : Sound s j) (cursor : String) :
    Sound s { j with queue :=
      { j.queue with consumer := { j.queue.consumer with cursor := cursor } } } := { h with }

/-! ## Moves of the recovery -/

/-- A recovery goes on. -/
theorem Sound.withRecovery (h : Sound s j) {t : Recovery} (ht : j.queue.recovery = some t)
    {t' : Recovery} (hattempt : ∀ a, t' = .connecting a → Underway s j a)
    (hreader : isPastReader t' = true → j.queue.reader = none) :
    Sound s { j with queue := { j.queue with recovery := some t' } } := by
  refine { h with first := ?_, alone := ?_, attempt := ?_ }
  · intro a ha
    nomatch (h.first a ha).1.symm.trans ht
  · intro u hu hpast
    cases hu
    exact hreader hpast
  · rintro a (ha | ha)
    · nomatch (h.first a ha).1.symm.trans ht
    · exact hattempt a (Option.some.inj ha)

/-- The recovery begins, and the reader is told to stop. -/
theorem Sound.recoveryBegan (h : Sound s j) (ht : j.queue.recovery = some .started) :
    Sound s { j with queue := { j.queue with
      isConnected := false
      reader := j.queue.reader.map fun r => { r with isStopping := true }
      recovery := some .stoppingReader } } := by
  have hjoining : Sound s { j with queue :=
      { j.queue with recovery := some .stoppingReader } } := by
    refine h.withRecovery ht ?_ ?_
    · intro a ha
      cases ha
    · intro hpast
      cases hpast
  refine { hjoining with first := ?_, alone := ?_, reading := ?_ }
  · intro a ha
    nomatch (hjoining.first a ha).1
  · intro u hu hpast
    cases hu
    cases hpast
  · intro r hr
    obtain ⟨told, htold, -⟩ := Option.map_eq_some_iff.mp hr
    exact h.reading told htold

/-- There is no recovery any more. -/
theorem Sound.unrecovered (h : Sound s j) :
    Sound s { j with queue := { j.queue with recovery := none } } := by
  refine { h with first := ?_, alone := ?_, attempt := ?_ }
  · exact fun a ha => ⟨rfl, (h.first a ha).2⟩
  · intro t ht
    cases ht
  · rintro a (ha | ha)
    · exact h.attempt a (.inl ha)
    · cases ha

/-! ## All moves -/

theorem Sound.move (h : Sound s j) {m : Queue.Move} (hmove : j.move m = some j') :
    Sound s j' := by
  obtain ⟨e, he, rfl⟩ := Option.map_eq_some_iff.mp hmove
  cases Queue.move_eq_some_iff.mp he with
  | openedOnly attempt publishes =>
    rw [enter_silent rfl (by simp [Queue.connects, attempt])]
    refine h.attemptSucceeded (tries_of_attempt? attempt) fun reads => ?_
    cases reads.symm.trans publishes
  | openedFirst attempt =>
    rw [enter_silent rfl (by simp [Queue.connects, attempt])]
    exact h.goOn (tries_of_attempt? attempt) trivial h.lines
  | openedSecond attempt => exact h.openedSecond attempt
  | openFailed _ attempt =>
    rw [enter_silent rfl rfl]
    rcases attempt with attempt | attempt
    · exact h.attemptFailed (tries_of_attempt? attempt) _
    · exact h.attemptFailed (tries_of_attempt? attempt) _
  | created attempt => exact h.created attempt
  | notCreated attempt | notPositioned attempt | timedOut attempt =>
    rw [enter_silent rfl rfl]
    exact h.attemptFailed (tries_of_attempt? attempt) _
  | positioned attempt =>
    have htries := tries_of_attempt? attempt
    rw [enter_silent rfl rfl]
    exact h.attemptSucceeded htries fun _ => (h.attempt _ htries).2
  | asked reader =>
    rw [enter_apart rfl rfl]
    exact (h.withReader reader _).fetches rfl rfl
  | claimFailed reader _ answer | readFailed reader _ answer =>
    rw [enter_silent (by simp [Queue.entry?, answer]) rfl]
    exact h.readerFailed reader _
  | @claimed _ _ x _ reader _ answer =>
    obtain ⟨cursor, rfl⟩ := Consumer.claimed_eq_ok answer
    rw [enter_entry (x := x) (by simp [Queue.entry?, answer]) rfl]
    exact (h.withCursor cursor).entryCame reader x
  | claimedNothing reader _ answer =>
    obtain ⟨cursor, rfl⟩ := Consumer.claimed_eq_ok answer
    rw [enter_apart (by simp [Queue.entry?, answer]) rfl]
    exact ((h.withCursor cursor).withReader reader _).fetches rfl rfl
  | @read _ _ x reader _ answer =>
    rw [enter_entry (x := x) (by simp [Queue.entry?, answer]) rfl]
    exact h.entryCame reader x
  | readNothing reader _ answer =>
    rw [enter_silent (by simp [Queue.entry?, answer]) rfl]
    exact h.withReader reader _
  | handedOn reader =>
    rw [enter_silent rfl rfl]
    exact { h.withReader reader _ with }
  | readerStopped =>
    rw [enter_silent rfl rfl]
    exact h.withoutReader
  | took | put | forwarderStopped =>
    rw [enter_silent rfl rfl]
    exact { h with }
  | recoveryBegan recovery =>
    rw [enter_silent rfl rfl]
    exact h.recoveryBegan recovery
  | scheduled uptime recovery reader =>
    rw [enter_silent rfl rfl]
    refine h.withRecovery recovery ?_ fun _ => reader
    intro a ha
    split at ha <;> cases ha
  | attemptBegan recovery =>
    rw [enter_silent rfl rfl]
    refine h.withRecovery recovery ?_ fun _ => h.alone _ recovery rfl
    intro a ha
    cases ha
    trivial
  | recoveryStopped =>
    rw [enter_silent rfl rfl]
    exact h.unrecovered

/-! ## Calls -/

/-- No call touches the position, an attempt or the reader; at most a recovery starts. -/
theorem Sound.call (h : Sound s j) {c : Queue.Call} (hcall : j.call c = some j') :
    Sound s j' := by
  obtain ⟨hheld, hcall⟩ := Option.ite_none_right_eq_some.mp hcall
  have hfirst : j.queue.firstAttempt = none := Option.isNone_iff_eq_none.mp hheld
  obtain ⟨q, hq, rfl⟩ := Option.map_eq_some_iff.mp hcall
  cases Queue.call_eq_some_iff.mp hq with
  | publishLost | ackLost =>
    exact Sound.lose (j := { j with queue := j.queue.measure _ }) { h with } hfirst _
  | closed => exact { h.unrecovered with }
  | _ => exact { h with }

/-! ## Whole runs -/

theorem Sound.act (h : Sound s j) {a : Act} (hact : j.act a = some j') : Sound s j' := by
  cases a with
  | move m => exact h.move hact
  | call c => exact h.call hact

theorem consumer_of_create {q : Queue} (hcreate : Queue.create s = .ok q) :
    Consumer.ofSettings s = .ok q.consumer := by
  obtain ⟨consumer, limit, hconsumer, rfl⟩ := Queue.eq_of_create hcreate
  exact hconsumer

theorem names_of_ofSettings {c : Consumer} (h : Consumer.ofSettings s = .ok c) :
    c.streamKey = s.streamKey ∧ c.nodeId = s.nodeId := by
  obtain ⟨ackWait, blockTimeout, -, -, rfl⟩ := Consumer.eq_of_ofSettings h
  exact ⟨rfl, rfl⟩

theorem sound_fresh {q : Queue} (hcreate : Queue.create s = .ok q) : Sound s ⟨q, [], []⟩ := by
  have hnew : q.IsNew := Queue.isNew_of_create hcreate
  have hnames := names_of_ofSettings (consumer_of_create hcreate)
  refine
    { key := hnames.1, node := hnames.2, resume := hnew.resume, first := ?_, alone := ?_,
      attempt := ?_, reading := ?_, lines := ?_ }
  · exact fun _ _ => ⟨hnew.recovery, hnew.reader⟩
  · exact fun _ _ _ => hnew.reader
  · rintro a (ha | ha)
    · cases hnew.first.symm.trans ha
      trivial
    · nomatch hnew.recovery.symm.trans ha
  · intro r hr
    nomatch hnew.reader.symm.trans hr
  · intro line hline
    cases hline

/-- Every journal is sound, whatever has happened. -/
theorem Reachable.sound (h : Reachable s j) : Sound s j := by
  induction h with
  | fresh created => exact sound_fresh created
  | act _ happens ih => exact ih.act happens

theorem Reachable.run (h : Reachable s j) {as : List Act} (hrun : j.run as = some j') :
    Reachable s j' := by
  refine foldlM_preserves ?_ h hrun
  exact fun _ _ _ _ hk hact => hk.act hact

/-- What was decoded stays decoded. -/
theorem decoded_act {a : Act} (h : j.act a = some j') :
    ∃ more, j'.decoded = j.decoded ++ more ∧
      ∀ m e, a = .move m → j.queue.entry? m = some e → more = e.decodedId?.toList := by
  cases a with
  | move m =>
    obtain ⟨e, -, rfl⟩ := Option.map_eq_some_iff.mp h
    refine ⟨_, rfl, ?_⟩
    rintro m x ⟨⟩ hx
    rw [hx, Option.bind_some]
  | call c =>
    obtain ⟨-, hcall⟩ := Option.ite_none_right_eq_some.mp h
    obtain ⟨q, -, rfl⟩ := Option.map_eq_some_iff.mp hcall
    refine ⟨[], (List.append_nil _).symm, ?_⟩
    rintro m x ⟨⟩

theorem words_position (key node : String) (id : Option EntryId) :
    (Command.position key node id).words =
      ["XGROUP", "SETID", key, node, id.elim "0" EntryId.text] := by
  cases id <;> rfl

/-- Whatever the service answers, however the tasks take turns and whatever callers do: the
position of a queue is the greatest id that was decoded, so it never moves back, and an
entry that cannot be decoded leaves it where it is. As soon as the group is there, it is put
behind this id, or at the beginning if nothing was decoded; and on no connection anything is
asked for before that. -/
theorem resumes_behind_greatest (h : Reachable s j) :
    j.queue.resume = j.decoded.max? ∧
    (∀ line ∈ j.connections, InOrder s line) ∧
    (∀ o resume, o.isGroupThere = true → j.queue.attempt? = some (.creating resume) →
      ∃ q command, j.queue.move (.prepared o) = some (q, [command]) ∧
        command.words = ["XGROUP", "SETID", s.streamKey, s.nodeId,
          j.decoded.max?.elim "0" EntryId.text]) ∧
    ∀ a j', j.act a = some j' →
      (∀ i ∈ j.queue.resume, ∃ i' ∈ j'.queue.resume, i ≤ i') ∧
      ∀ m e, a = .move m → j.queue.entry? m = some e → e.decodedId? = none →
        j'.queue.resume = j.queue.resume := by
  have hsound : Sound s j := h.sound
  refine ⟨hsound.resume, hsound.lines, ?_, ?_⟩
  · intro o resume ho hattempt
    have hmove := Queue.move_eq_some_iff.mpr (.created hattempt (created_eq_ok_iff.mpr ho))
    rw [hsound.positionCommand hattempt] at hmove
    exact ⟨_, _, hmove, words_position _ _ _⟩
  · intro a j' hact
    have hresume : j'.queue.resume = j'.decoded.max? := (hsound.act hact).resume
    obtain ⟨more, hmore, hdecodes⟩ := decoded_act hact
    rw [hresume, hmore, hsound.resume]
    refine ⟨fun i hi => le_max?_append hi, ?_⟩
    intro m e hm he hundecodable
    rw [hdecodes m e hm he, hundecodable, Option.toList_none, List.append_nil]

/-- The reader claims an entry and gets one. -/
def claiming (position id : String) : List Act := [
  .move .readerAsked, .move (.claimAnswered (Crew.claimAnswer position id))]

/-- The connections are made, and the group is about to be created. -/
def opening : List Act := [.move .opened, .move .opened]

/-- A newer entry comes before an older one, with one between them whose id cannot be read.
Then a publisher finds the connection lost, and another one is made. -/
def backAndForth : List Act :=
  opening ++ [.move (.prepared (.answered .okay)), .move (.prepared (.answered .okay))] ++
  claiming "5-0" "oak" ++ [.move .handedOn] ++ claiming "5-x" "ash" ++ claiming "3-1" "elm" ++
  [.call (.publishAnswered (.lost "connection closed")), .move .recoveryBegan,
    .move .readerStopped, .move (.recoveryScheduled 0), .move .attemptBegan] ++ opening

/-- The answer that the group exists. -/
def groupExists : Outcome := .refused ⟨"BUSYGROUP", none⟩

/-- The group is put behind the newer of the two entries that could be decoded. -/
theorem backAndForth_resumes :
    ∃ q j, Queue.create { nodeId := "node" } = .ok q ∧ run ⟨q, [], []⟩ backAndForth = some j ∧
      j.decoded.map EntryId.text = ["5-0", "3-1"] ∧
      ∃ q' command, j.queue.move (.prepared groupExists) = some (q', [command]) ∧
        command.words = ["XGROUP", "SETID", "catalogs-cluster:catalogs", "node", "5-0"] := by
  have hrun : (Queue.create { nodeId := "node" }).toOption.bind (fun q =>
      (run ⟨q, [], []⟩ backAndForth).map fun j => (j.decoded.map EntryId.text,
        j.queue.attempt?, j.queue.resume.elim "0" EntryId.text)) =
      some (["5-0", "3-1"], some (.creating (EntryId.of? 5 0)), "5-0") := by
    decide +kernel
  obtain ⟨q, hq, hrun⟩ := Option.bind_eq_some_iff.mp hrun
  obtain ⟨j, hj, hparts⟩ := Option.map_eq_some_iff.mp hrun
  simp only [Prod.mk.injEq] at hparts
  obtain ⟨hdecoded, hattempt, htext⟩ := hparts
  have hcreate : Queue.create { nodeId := "node" } = .ok q := by
    cases hcreated : Queue.create { nodeId := "node" } with
    | error f => simp [hcreated, Except.toOption] at hq
    | ok q₀ =>
      rw [hcreated] at hq
      cases hq
      rfl
  obtain ⟨hresume, -, hplaces, -⟩ := resumes_behind_greatest ((Reachable.fresh hcreate).run hj)
  obtain ⟨q', command, hmove, hwords⟩ := hplaces groupExists _ rfl hattempt
  rw [← hresume, htext] at hwords
  exact ⟨q, j, hcreate, hj, hdecoded, q', command, hmove, hwords⟩

end Journal
end CatalogReplica
