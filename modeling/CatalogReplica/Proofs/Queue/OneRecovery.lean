/-
# CatalogReplica.Proofs.Queue.OneRecovery -- one recovery and one reader at a time

Three kinds of task can report that the connection was lost, and none of them knows
whether another has done so; a recovery that succeeds starts a reader without looking
whether there is one. Still there is never a second recovery, nor a second reader: every
step of a crew is a `Next`, so the phases are all that can be reached.
-/
import CatalogReplica.Proofs.Queue.Simulation
import CatalogReplica.Proofs.Runs

namespace CatalogReplica.Crew

variable {c : Crew} {k : Cells} {who : Nat} {r : RecoveryTask}

/-! ## Moves -/

/-- What a task keeps of itself, the list of them keeps. -/
theorem map_set_eq {α β : Type} {f : α → β} {tasks : List α} {t t' : α}
    (ht : tasks[who]? = some t) (hkeeps : f t' = f t) : (tasks.set who t').map f = tasks.map f := by
  rw [List.map_set, hkeeps]
  apply List.ext_getElem?
  intro i
  by_cases hi : who = i
  · subst hi
    rw [List.getElem?_set_self', List.getElem?_map, ht]
    rfl
  · rw [List.getElem?_set_ne hi]

theorem readerAt_cells {r : ReadingTask} (hr : c.readers[who]? = some r) (stage : Stage) :
    (c.readerAt who r stage).cells = c.cells := by
  have htags : (c.readers.set who { r with stage := stage }).map ReadingTask.tag =
      c.readers.map ReadingTask.tag := map_set_eq hr rfl
  simp only [readerAt, cells, htags]

theorem entryCame_cells {r : ReadingTask} (hr : c.readers[who]? = some r) (e : Entry) :
    (c.entryCame who r e).cells = c.cells := by
  unfold entryCame
  dsimp only
  split
  · exact readerAt_cells hr _
  · exact readerAt_cells hr _

theorem erase_cells (c : Crew) (who : Nat) :
    ({ c with readers := c.readers.eraseIdx who } : Crew).cells =
      { c.cells with roster := c.cells.roster.eraseIdx who } := by
  simp only [cells, List.eraseIdx_map]

theorem Next.readerFailed (h : Sound c.cells) {r : ReadingTask} (hr : c.readers[who]? = some r)
    (f : Failure) : Next c.cells (c.readerFailed who f).cells := by
  have hroster : c.cells.roster ≠ [] :=
    List.ne_nil_of_mem (List.mem_map_of_mem (List.mem_of_getElem? hr))
  have hcreated : c.firstAttempt = none := h.phase.created_of_busy (.inl hroster)
  unfold Crew.readerFailed
  rw [lose_cells]
  rw [erase_cells]
  exact .lose_after (h.erase who) hcreated rfl rfl (eraseIdx_eq_nil · who) ⟨id, id, rfl⟩

theorem handOn_cells {n m : Numbered} {stopping : Bool} {number : Nat}
    (hr : c.readers[who]? = some ⟨number, .offering n, stopping⟩) :
    ({ c with readers := c.readers.set who ⟨number, .between, stopping⟩, input := some m } :
      Crew).cells = c.cells := by
  have htags : (c.readers.set who ⟨number, .between, stopping⟩).map ReadingTask.tag =
      c.readers.map ReadingTask.tag := map_set_eq hr rfl
  simp only [cells, htags]

theorem Next.readerStops (h : Sound c.cells) (who : Nat) (stopped : List Nat) :
    Next c.cells
      ({ c with readers := c.readers.eraseIdx who, stopped := stopped } : Crew).cells := by
  have hsound : Sound ({ c with readers := c.readers.eraseIdx who } : Crew).cells := by
    rw [erase_cells]
    exact h.erase who
  refine .of_sound hsound rfl rfl (fun hunread => ?_) ⟨id, id, rfl⟩
  exact congrArg (List.map ReadingTask.tag)
    (eraseIdx_eq_nil (List.map_eq_nil_iff.mp hunread) who)

/-- The readers keep their numbers when one of them is told to stop. -/
theorem readersTold_tags (c : Crew) :
    c.readersTold.map ReadingTask.tag = c.cells.roster.map fun t =>
      if c.slot = some t.1 then (t.1, true) else t := by
  simp only [readersTold, cells, List.map_map]
  apply List.map_congr_left
  intro r _
  by_cases hslot : c.slot = some r.number
  · simp [ReadingTask.tag, hslot]
  · simp [ReadingTask.tag, hslot]

/-- The recovery takes the reader out of the slot and waits for it. -/
theorem Next.recoveryBegins (h : Sound c.cells) (hstarted : c.recoveries[who]? = some .started) :
    Next c.cells ({ c with
      isConnected := false
      readers := c.readersTold
      recoveries := c.recoveries.set who (.joining c.slot)
      slot := none } : Crew).cells := by
  have htags := readersTold_tags c
  refine .recoveryGoesOn h hstarted ?_ ?_ ?_ ?_
  · intro hrecovering t ht
    rw [htags] at ht
    obtain ⟨u, hu, rfl⟩ := List.mem_map.mp ht
    have hslot : c.slot = some u.1 := (hrecovering.left u hu).1
    rw [if_pos hslot]
    exact ⟨hslot, rfl⟩
  · rw [htags, List.length_map]
    exact h.single
  · intro t ht
    rw [htags] at ht
    obtain ⟨u, hu, rfl⟩ := List.mem_map.mp ht
    have hlatest : u.1 + 1 = c.started := h.latest u hu
    split <;> exact hlatest
  · intro hunread
    rw [htags, hunread]
    rfl

/-- A recovery that is told to end leaves no reader. -/
theorem Next.recoveryEnds (h : Sound k) (hr : k.recoveries[who]? = some r)
    (hending : k.isClosing = true ∨ k.isReleased = true)
    (hleft : r.Leaves k.slot k.roster → k.roster = []) :
    Next k { k with recoveries := k.recoveries.eraseIdx who } := by
  refine .of_sound ⟨?_, h.single, h.latest, h.unread⟩ rfl rfl id ⟨id, id, rfl⟩
  rcases h.phase.recovering_or_closing hr with ⟨rfl, hrecovering⟩ | hclosing
  · have hreleased : k.isReleased = true := by
      rcases hending with hclosing | hreleased
      · rw [hrecovering.opened] at hclosing
        cases hclosing
      · exact hreleased
    refine .stopped hrecovering.created hrecovering.state hrecovering.reported ?_
      (hleft hrecovering.left) hrecovering.opened hreleased
    show k.recoveries.eraseIdx 0 = []
    rw [hrecovering.recovery]
    rfl
  · refine .closing (h.phase.created_of_busy (.inr (.inr (.inr hclosing)))) ?_ hclosing
    exact Nat.le_trans (List.eraseIdx_sublist ..).length_le h.phase.recoveries_le

/-- What a move can do to the cells. -/
theorem Moves.next {m : Queue.Move} {e : Effect} (h : Sound c.cells) (hmove : c.Moves who m e) :
    Next c.cells e.1.cells := by
  cases hmove with
  | openedOnly attempt | positioned attempt => exact .attemptSucceeded h attempt
  | openedFirst attempt | openedSecond attempt | created attempt => exact .goOn h attempt _
  | openFailed _ attempt =>
    rcases attempt with attempt | attempt
    · exact .attemptFailed h attempt _
    · exact .attemptFailed h attempt _
  | notCreated attempt | notPositioned attempt | timedOut attempt =>
    exact .attemptFailed h attempt _
  | asked reader | readNothing reader => exact .of_eq h (readerAt_cells reader _)
  | claimFailed reader | readFailed reader => exact .readerFailed h reader _
  | @claimed _ _ _ k reader =>
    exact .of_eq h (entryCame_cells (c := { c with consumer := k }) reader _)
  | @claimedNothing _ _ k reader =>
    exact .of_eq h (readerAt_cells (c := { c with consumer := k }) reader _)
  | read reader => exact .of_eq h (entryCame_cells reader _)
  | handedOn reader => exact .of_eq h (handOn_cells reader)
  | readerStopped => exact .readerStops h who _
  -- the cells do not tell what the forwarder does
  | took | put | forwarderStopped => exact .of_eq h rfl
  | recoveryBegan recovery => exact .recoveryBegins h recovery
  | scheduled _ recovery ended =>
    -- the recovery has waited for the reader, so there is none
    refine .recoveryGoesOn h recovery ?_ h.single h.latest id
    intro hrecovering
    have hunread : c.cells.roster = [] :=
      congrArg (List.map ReadingTask.tag) ((all_isOver_iff hrecovering).mp ended)
    split <;> exact hunread
  | attemptBegan recovery =>
    exact .recoveryGoesOn h recovery (fun hrecovering => hrecovering.left) h.single h.latest id
  | recoveryStopped told recovery free =>
    refine .recoveryEnds h recovery (Bool.or_eq_true_iff.mp told) ?_
    rcases free with rfl | ⟨a, rfl⟩
    · exact id
    · exact id

/-! ## Calls -/

/-- Only who has the queue has sent something, so the first attempt is over. -/
theorem Sound.without (h : Sound c.cells) {call : Nat} {command : Command}
    (hsent : c.calls[call]? = some command) :
    c.firstAttempt = none ∧ Sound (c.without call).cells := by
  have hcalls : c.cells.calls ≠ [] := List.ne_nil_of_mem (List.mem_of_getElem? hsent)
  have hcreated := h.phase.created_of_busy (.inr (.inl hcalls))
  exact ⟨hcreated, h.withCalls hcreated _⟩

/-- A call has learned the outcome of its command. -/
theorem Next.learns (h : Sound c.cells) {call : Nat} {command : Command}
    (hsent : c.calls[call]? = some command) (m : Measurement) :
    Next c.cells ((c.without call).measure m).cells :=
  .of_sound (h.without hsent).2 rfl rfl id ⟨id, id, rfl⟩

/-- A call has learned of the loss of the connection. -/
theorem Next.learnsLoss (h : Sound c.cells) {call : Nat} {command : Command}
    (hsent : c.calls[call]? = some command) (m : Measurement) (f : Failure) :
    Next c.cells (((c.without call).measure m).lose f).cells := by
  obtain ⟨hcreated, hsound⟩ := h.without hsent
  rw [lose_cells]
  exact .lose_after hsound hcreated rfl rfl id ⟨id, id, rfl⟩

/-- A command that a call has sent. -/
theorem Next.send (h : Sound c.cells) (hcreated : c.firstAttempt = none) (command : Command) :
    Next c.cells (c.send command).1.cells :=
  .of_sound (h.withCalls hcreated (c.calls ++ [command])) rfl rfl id ⟨id, id, rfl⟩

theorem isOwned_iff : c.isOwned = true ↔ c.firstAttempt = none ∧ c.isReleased = false := by
  simp [isOwned]

/-- All tasks have ended, and the state becomes the last one. -/
theorem Next.closes (h : Sound c.cells) (hclosing : c.isClosing = true)
    (hunclosed : c.state ≠ .closed) (notices : List Notice) :
    Next c.cells (c.closedAfter notices).cells := by
  have hcreated := h.phase.created_of_busy (.inr (.inr (.inr hclosing)))
  have hsound : Sound { c.cells with state := .closed, isConnected := false, recoveries := [] } :=
    ⟨.closing hcreated (Nat.zero_le 1) hclosing, h.single, h.latest, h.unread⟩
  exact ⟨hsound, .inr (.close hunclosed), .inl ⟨rfl, id⟩, ⟨id, id, rfl⟩⟩

theorem Next.released (h : Sound c.cells) (hcreated : c.firstAttempt = none) :
    Next c.cells { c.cells with isReleased := true } := by
  have hcreated : c.cells.firstAttempt = none := hcreated
  refine .of_sound ⟨?_, h.single, h.latest, h.unread⟩ rfl rfl id
    ⟨id, fun _ => Bool.or_true _, rfl⟩
  cases h.phase with
  | starting first => simp [hcreated] at first
  | linked _ state connected unreported unrecovered placed opened =>
    exact .linked hcreated state connected unreported unrecovered placed opened
  | recovering r recovering => exact .recovering r { recovering with }
  | stopped _ state reported unrecovered unread opened _ =>
    exact .stopped hcreated state reported unrecovered unread opened rfl
  | closing _ single closing => exact .closing hcreated single closing

/-- What an act can do to the cells. -/
theorem next_act {a : Act} {e : Effect} (h : Sound c.cells) (hact : c.act a = some e) :
    Next c.cells e.1.cells := by
  cases act_eq_some_iff.mp hact with
  | move moves => exact moves.next h
  | publishing _ owned => exact .send h (isOwned_iff.mp owned).1 _
  | acknowledging linked =>
    have hconnected : c.cells.isConnected = true := linked
    exact .send h (h.phase.created_of_busy (.inr (.inr (.inl hconnected)))) _
  | published sent | notPublished sent | acknowledged sent | notAcknowledged sent =>
    exact .learns h sent _
  | publishLost sent | ackLost sent => exact .learnsLoss h sent _ _
  | waits | abandoned | received | sawEnd => exact .of_eq h rfl
  | closing owned =>
    -- nobody is told to close a queue before it was created
    refine .of_sound ⟨?_, h.single, h.latest, h.unread⟩ rfl rfl id ⟨id, fun _ => rfl, rfl⟩
    exact .closing (isOwned_iff.mp owned).1 h.phase.recoveries_le rfl
  | closed told unclosed => exact .closes h told unclosed _
  | released owned => exact .released h (isOwned_iff.mp owned).1

/-! ## Runs -/

/-- A crew starts with its first attempt to connect. -/
theorem sound_fresh {s : QueueSettings} {q : Queue} (hcreate : Queue.create s = .ok q) :
    Sound (fresh q).cells := by
  obtain ⟨consumer, limit, -, rfl⟩ := Queue.eq_of_create hcreate
  refine ⟨?_, Nat.zero_le 1, fun t ht => absurd ht List.not_mem_nil, fun _ => rfl⟩
  exact .starting rfl rfl rfl rfl rfl rfl rfl rfl rfl

/-- The cells are sound whatever has happened. -/
theorem Reachable.sound (h : Reachable c) : Sound c.cells := by
  induction h with
  | fresh created => exact sound_fresh created
  | act _ happens ih => exact (next_act ih happens).sound

theorem Reachable.run (h : Reachable c) {as : List Act} {c' : Crew} (hrun : c.run as = some c') :
    Reachable c' := by
  refine foldlM_preserves ?_ h hrun
  intro a _ d d' hd hact
  obtain ⟨e, he, rfl⟩ := Option.map_eq_some_iff.mp hact
  exact hd.act he

/-- The reader after a step is the one from before, unless there was none before. -/
theorem unread_of_new {e : Effect} (h : Sound c.cells) (hnext : Next c.cells e.1.cells)
    {t : ReadingTask} (ht : t ∈ e.1.readers) (hnew : ∀ u ∈ c.readers, u.number ≠ t.number) :
    c.readers = [] := by
  rcases hnext.relief with ⟨hstarted, -⟩ | ⟨-, hunread⟩
  · by_contra hread
    obtain ⟨u, hu⟩ := List.exists_mem_of_ne_nil _ hread
    have hlatest : u.number + 1 = c.cells.started := h.latest u.tag (List.mem_map_of_mem hu)
    have hlatest' : t.number + 1 = e.1.cells.started :=
      hnext.sound.latest t.tag (List.mem_map_of_mem ht)
    exact hnew u hu (by omega)
  · exact List.map_eq_nil_iff.mp hunread

/-- Whatever the service answers, whatever callers do, and however the tasks take turns:
the state of the connection changes as `LinkState.Becomes` says, and there is at most one
reader, because another one is started only when there is none. Until the queue is told
to close, a connection is held and no recovery is pending while it is connected; while it
is reconnecting there is exactly one recovery, unless the queue was let go of. And until
the queue is told to end it moves as these tasks do. -/
theorem one_recovery_one_reader (h : Reachable c) :
    (∀ a e, c.act a = some e →
      (e.1.state = c.state ∨ c.state.Becomes e.1.state) ∧
      ∀ t ∈ e.1.readers, (∀ u ∈ c.readers, u.number ≠ t.number) → c.readers = []) ∧
    c.readers.length ≤ 1 ∧
    (c.isClosing = false → c.state = .connected → c.isConnected = true ∧ c.recoveries = []) ∧
    (c.isClosing = false → c.isReleased = false → c.state = .reconnecting →
      ∃ r, c.recoveries = [r]) ∧
    (c.isEnding = false → ∀ m, c.queue.move m = (c.move 0 m).map shown) := by
  have hsound := h.sound
  refine ⟨?_, ?_, ?_, ?_, fun hon m => queue_move hsound hon m⟩
  · intro a e hact
    have hnext := next_act hsound hact
    exact ⟨hnext.state, fun t ht hnew => unread_of_new hsound hnext ht hnew⟩
  · have hsingle : (c.readers.map ReadingTask.tag).length ≤ 1 := hsound.single
    rwa [List.length_map] at hsingle
  · intro hopen hconnected
    cases hsound.phase with
    | linked _ _ connected _ unrecovered => exact ⟨connected, unrecovered⟩
    | closing _ _ closing => exact absurd closing (Bool.eq_false_iff.mp hopen)
    -- in the other phases the state is another one
    | starting _ state => cases hconnected.symm.trans state
    | recovering r recovering => cases hconnected.symm.trans recovering.state
    | stopped _ state => cases hconnected.symm.trans state
  · intro hopen howned hreconnecting
    cases hsound.phase with
    | recovering r recovering => exact ⟨r, recovering.recovery⟩
    | closing _ _ closing => exact absurd closing (Bool.eq_false_iff.mp hopen)
    | stopped _ _ _ _ _ _ released => exact absurd released (Bool.eq_false_iff.mp howned)
    | starting _ state => cases hreconnecting.symm.trans state
    | linked _ state => cases hreconnecting.symm.trans state

/-- What acts lead to after a queue was created. -/
def after (s : QueueSettings) (as : List Act) : Option Crew :=
  match Queue.create s with
  | .ok q => (fresh q).run as
  | .error _ => none

theorem reachable_of_after {s : QueueSettings} {as : List Act} (h : after s as = some c) :
    Reachable c := by
  unfold after at h
  split at h
  case h_1 q hcreate => exact (Reachable.fresh hcreate).run h
  case h_2 => cases h

/-- The connection is made, and the group is prepared. -/
def connecting : List Act := [
  .move 0 .opened, .move 0 .opened, .move 0 (.prepared (.answered .okay)),
  .move 0 (.prepared (.answered .okay))]

/-- The connection is lost while a change is published and the reader waits for the
answer to its claim. First the publisher learns of it, then the reader. -/
def lostTwice : List Act := [
  .move 0 .readerAsked, .publish (.delete "oak") .epoch,
  .answered 0 (.lost "connection closed"), .move 0 (.claimAnswered (.lost "connection closed"))]

/-- Two reports of one loss start one recovery. -/
theorem lost_twice_recovered_once :
    ∃ c, after { nodeId := "node" } (connecting ++ lostTwice) = some c ∧
      c.state = .reconnecting ∧ c.started = 1 ∧ c.readers.length ≤ 1 ∧
      ∃ r, c.recoveries = [r] := by
  have hrun : (after { nodeId := "node" } (connecting ++ lostTwice)).map (fun c =>
      (c.state, c.started, c.isClosing, c.isReleased)) = some (.reconnecting, 1, false, false) := by
    decide +kernel
  obtain ⟨c, hc, hcells⟩ := Option.map_eq_some_iff.mp hrun
  simp only [Prod.mk.injEq] at hcells
  obtain ⟨hstate, hstarted, hopen, howned⟩ := hcells
  obtain ⟨-, hsingle, -, hrecovery, -⟩ := one_recovery_one_reader (reachable_of_after hc)
  exact ⟨c, hc, hstate, hstarted, hsingle, hrecovery hopen howned hstate⟩

end CatalogReplica.Crew
