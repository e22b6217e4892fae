/-
# CatalogReplica.Proofs.Queue.Turns -- which tasks a step starts, and which it ends

The phases of a crew say which tasks there can be. Whoever waits for the end of a task has
to know more: which of the recoveries went on, which of them has ended, who took the reader
out of the slot, and whether another one was put there. `Turn` says this for every step but
the two halves of closing, and nothing of it depends on the phase.
-/
import CatalogReplica.Proofs.Queue.OneRecovery

namespace CatalogReplica.Crew

variable {c : Crew} {k k' : Cells} {who : Nat}

/-- The numbers of the readers. -/
def Cells.team (k : Cells) : List Nat := k.roster.map Prod.fst

/-- A recovery that waits for nobody, and has not given up. -/
def RecoveryTask.IsFree (r : RecoveryTask) : Prop := r = .waiting ∨ ∃ a, r = .connecting a

/-- No reader is started, and the slot stays as it is. Readers may end. -/
structure Quiet (k k' : Cells) : Prop where
  team : k'.team ⊆ k.team
  slot : k'.slot = k.slot
  started : k'.started = k.started
  isClosing : k'.isClosing = k.isClosing
  unclosed : k.state ≠ .closed → k'.state ≠ .closed

/-- No recovery changes, or this one has ended. -/
def Relieved (k : Cells) (who : Nat) (k' : Cells) : Prop :=
  k'.recoveries = k.recoveries ∨
    ∃ r, k.recoveries[who]? = some r ∧ r.IsFree ∧ k'.recoveries = k.recoveries.eraseIdx who

/-- What a step does to the tasks, if it is this one that makes it. -/
inductive Turn (k : Cells) (who : Nat) (k' : Cells) : Prop where
  | rests (quiet : Quiet k k') (recoveries : Relieved k who k')
  /-- A recovery is started. -/
  | loses (quiet : Quiet k k') (recoveries : k'.recoveries = k.recoveries ++ [.started])
  /-- A recovery goes on. The reader that it has waited for has ended. -/
  | goesOn (quiet : Quiet k k') (r r' : RecoveryTask) (before : k.recoveries[who]? = some r)
      (unbroken : r ≠ .broken) (ended : ∀ n, r = .joining (some n) → n ∉ k.team)
      (recoveries : k'.recoveries = k.recoveries.set who r')
  /-- A recovery takes the reader out of the slot, to wait for its end. -/
  | begins (before : k.recoveries[who]? = some .started) (team : k'.team = k.team)
      (slot : k'.slot = none) (started : k'.started = k.started)
      (isClosing : k'.isClosing = k.isClosing) (state : k'.state = k.state)
      (recoveries : k'.recoveries = k.recoveries.set who (.joining k.slot))
  /-- A reader is started, and takes the slot. -/
  | links (recoveries : Relieved k who k') (team : k'.team = k.team ++ [k.started])
      (slot : k'.slot = some k.started) (started : k'.started = k.started + 1)
      (opened : k'.isClosing = false) (isClosing : k'.isClosing = k.isClosing)
      (state : k'.state = .connected)

/-- All that a quiet step could change. -/
def Cells.scene (k : Cells) : List (Nat × Bool) × Option Nat × Nat × Bool × LinkState :=
  (k.roster, k.slot, k.started, k.isClosing, k.state)

theorem Quiet.of_scene (h : k'.scene = k.scene) : Quiet k k' := by
  simp only [Cells.scene, Prod.mk.injEq] at h
  obtain ⟨hroster, hslot, hstarted, hclosing, hstate⟩ := h
  refine ⟨?_, hslot, hstarted, hclosing, ?_⟩
  · rw [Cells.team, hroster]
    exact List.Subset.refl _
  · rw [hstate]
    exact id

theorem Turn.of_eq (heq : k' = k) : Turn k who k' := by
  subst heq
  exact .rests (.of_scene rfl) (.inl rfl)

/-- A reader that has ended is not in the team any more. -/
theorem quiet_erase (k : Cells) (who : Nat) :
    Quiet k { k with roster := k.roster.eraseIdx who } where
  team := ((List.eraseIdx_sublist ..).map Prod.fst).subset
  slot := rfl
  started := rfl
  isClosing := rfl
  unclosed := id

theorem team_cells (c : Crew) : c.cells.team = c.readers.map ReadingTask.number := by
  unfold Cells.team cells
  rw [List.map_map]
  rfl

theorem isOver_iff {n : Nat} : c.isOver n = true ↔ n ∉ c.cells.team := by
  rw [team_cells, isOver, List.all_eq_true, List.mem_map]
  simp

/-! ## Losing a connection -/

/-- The report of a loss, by whoever has ended with it. -/
theorem Turn.lose (hquiet : Quiet k k') (hrecoveries : k'.recoveries = k.recoveries) :
    Turn k who k'.lose := by
  unfold Cells.lose
  split
  case isTrue => exact .rests hquiet (.inl hrecoveries)
  case isFalse =>
    refine .loses ⟨hquiet.team, hquiet.slot, hquiet.started, hquiet.isClosing, ?_⟩ ?_
    · intro _ hclosed
      cases hclosed
    · exact congrArg (· ++ [.started]) hrecoveries

/-! ## Connecting -/

theorem turn_goOn {a : Attempt} (ha : c.attempt? who = some a) (b : Attempt) :
    Turn c.cells who (c.goOn who b).cells := by
  unfold goOn
  split
  case h_1 => exact .rests (.of_scene rfl) (.inl rfl)
  case h_2 hcreated =>
    have hbefore : c.cells.recoveries[who]? = some (.connecting a) :=
      connecting_of_attempt ha hcreated
    exact .goesOn (.of_scene rfl) _ (.connecting b) hbefore nofun nofun rfl

theorem turn_attemptFailed {a : Attempt} (ha : c.attempt? who = some a) (f : Failure) :
    Turn c.cells who (c.attemptFailed who f).cells := by
  unfold attemptFailed
  dsimp only
  split
  case h_1 =>
    rw [lose_cells]
    exact .lose (.of_scene rfl) rfl
  case h_2 hcreated =>
    have hbefore : c.cells.recoveries[who]? = some (.connecting a) :=
      connecting_of_attempt ha hcreated
    exact .goesOn (.of_scene rfl) _ .waiting hbefore nofun nofun rfl

/-- The end of an attempt is the end of the recovery that made it. -/
theorem relieved_attemptOver {a : Attempt} (ha : c.attempt? who = some a) :
    Quiet c.cells (c.attemptOver who).cells ∧
      Relieved c.cells who (c.attemptOver who).cells := by
  unfold attemptOver
  split
  case h_1 => exact ⟨.of_scene rfl, .inl rfl⟩
  case h_2 hcreated =>
    have hbefore : c.cells.recoveries[who]? = some (.connecting a) :=
      connecting_of_attempt ha hcreated
    exact ⟨.of_scene rfl, .inr ⟨_, hbefore, .inr ⟨a, rfl⟩, rfl⟩⟩

/-- To be told to stop does not change the number of a reader. -/
theorem readersTold_numbers (c : Crew) :
    c.readersTold.map ReadingTask.number = c.readers.map ReadingTask.number := by
  simp only [readersTold, List.map_map]
  apply List.map_congr_left
  intro r _
  show ReadingTask.number (if c.slot = some r.number then _ else r) = r.number
  split <;> rfl

theorem startReader_team (c : Crew) :
    c.startReader.cells.team = c.cells.team ++ [c.started] := by
  rw [team_cells, team_cells]
  simp only [startReader, List.map_append, readersTold_numbers]
  rfl

theorem turn_attemptSucceeded {a : Attempt} (ha : c.attempt? who = some a) :
    Turn c.cells who (c.attemptSucceeded who).cells := by
  unfold attemptSucceeded
  generalize hover : (c.measure (.connectionAttempt true)).attemptOver who = c'
  obtain ⟨hquiet, hrelieved⟩ : Quiet c.cells c'.cells ∧ Relieved c.cells who c'.cells := by
    rw [← hover]
    exact relieved_attemptOver (c := c.measure (.connectionAttempt true)) ha
  dsimp only
  split
  -- the queue was told to close in the meantime, and the connection is given up
  case isTrue => exact .rests hquiet hrelieved
  case isFalse hopen =>
    split
    case isTrue => exact .rests { hquiet with unclosed := fun _ => nofun } hrelieved
    case isFalse =>
      have hteam : c'.cells.roster.map Prod.fst = c.cells.roster.map Prod.fst := by
        rw [← hover]
        unfold attemptOver
        split <;> rfl
      refine .links hrelieved ?_ ?_ ?_ ?_ ?_ rfl
      · rw [startReader_team]
        exact congr (congrArg _ hteam) (congrArg ([·]) hquiet.started)
      · exact congrArg some hquiet.started
      · exact congrArg (· + 1) hquiet.started
      · exact Bool.eq_false_iff.mpr hopen
      · exact hquiet.isClosing

/-! ## Moves -/

theorem turn_readerFailed (c : Crew) (reader : Nat) (f : Failure) :
    Turn c.cells who (c.readerFailed reader f).cells := by
  unfold readerFailed
  rw [lose_cells, erase_cells]
  exact .lose (quiet_erase _ _) rfl

theorem turn_readerStops (c : Crew) (reader : Nat) (stopped : List Nat) :
    Turn c.cells who
      ({ c with readers := c.readers.eraseIdx reader, stopped := stopped } : Crew).cells := by
  refine .rests ?_ (.inl rfl)
  show Quiet c.cells ({ c with readers := c.readers.eraseIdx reader } : Crew).cells
  rw [erase_cells]
  exact quiet_erase _ _

theorem Moves.turn {m : Queue.Move} {e : Effect} (h : c.Moves who m e) :
    Turn c.cells who e.1.cells := by
  cases h with
  | openedOnly attempt | positioned attempt => exact turn_attemptSucceeded attempt
  | openedFirst attempt | openedSecond attempt | created attempt => exact turn_goOn attempt _
  | openFailed _ attempt =>
    rcases attempt with attempt | attempt
    · exact turn_attemptFailed attempt _
    · exact turn_attemptFailed attempt _
  | notCreated attempt | notPositioned attempt | timedOut attempt =>
    exact turn_attemptFailed attempt _
  | asked reader | readNothing reader => exact .of_eq (readerAt_cells reader _)
  | claimFailed | readFailed => exact turn_readerFailed c who _
  | @claimed _ _ _ k reader =>
    exact .of_eq (entryCame_cells (c := { c with consumer := k }) reader _)
  | @claimedNothing _ _ k reader =>
    exact .of_eq (readerAt_cells (c := { c with consumer := k }) reader _)
  | read reader => exact .of_eq (entryCame_cells reader _)
  | handedOn reader => exact .of_eq (handOn_cells reader)
  | readerStopped => exact turn_readerStops c who _
  -- the cells do not tell what the forwarder does
  | took | put | forwarderStopped => exact .of_eq rfl
  | recoveryBegan recovery =>
    refine .begins recovery ?_ rfl rfl rfl rfl rfl
    rw [team_cells, team_cells]
    exact readersTold_numbers c
  | @scheduled _ reader recovery ended =>
    have hbefore : c.cells.recoveries[who]? = some (.joining reader) := recovery
    refine .goesOn (.of_scene rfl) _ _ hbefore nofun ?_ rfl
    rintro n ⟨⟩
    exact isOver_iff.mp ended
  | attemptBegan recovery =>
    have hbefore : c.cells.recoveries[who]? = some .waiting := recovery
    exact .goesOn (.of_scene rfl) _ _ hbefore nofun nofun rfl
  | recoveryStopped _ recovery free =>
    exact .rests (.of_scene rfl) (.inr ⟨_, recovery, free, rfl⟩)

/-! ## Calls -/

/-- The task that makes an act, if it is not a call. -/
def Act.doer : Act → Nat
  | .move doer _ => doer
  | _ => 0

/-- Every act but the two halves of closing is a turn. -/
theorem turn_act {a : Act} {e : Effect} (hact : c.act a = some e) (hbegin : a ≠ .beginClose)
    (hfinish : a ≠ .finishClose) : Turn c.cells a.doer e.1.cells := by
  cases act_eq_some_iff.mp hact with
  | move moves => exact moves.turn
  | publishLost | ackLost =>
    rw [lose_cells]
    exact .lose (.of_scene rfl) rfl
  | closing => exact absurd rfl hbegin
  | closed => exact absurd rfl hfinish
  | publishing | acknowledging | published | notPublished | acknowledged | notAcknowledged
  | waits | abandoned | received | sawEnd | released =>
    exact .rests (.of_scene rfl) (.inl rfl)

/-! ## The forwarder -/

@[simp]
theorem lose_forwarder (c : Crew) (f : Failure) : (c.lose f).forwarder = c.forwarder := by
  unfold lose
  split <;> rfl

@[simp]
theorem goOn_forwarder (c : Crew) (a : Attempt) : (c.goOn who a).forwarder = c.forwarder := by
  unfold goOn
  split <;> rfl

@[simp]
theorem attemptFailed_forwarder (c : Crew) (f : Failure) :
    (c.attemptFailed who f).forwarder = c.forwarder := by
  unfold attemptFailed
  dsimp only
  split
  · rw [lose_forwarder]
    rfl
  · rfl

@[simp]
theorem attemptSucceeded_forwarder (c : Crew) :
    (c.attemptSucceeded who).forwarder = c.forwarder := by
  have hover : ((c.measure (.connectionAttempt true)).attemptOver who).forwarder = c.forwarder := by
    unfold attemptOver
    split <;> rfl
  unfold attemptSucceeded
  dsimp only
  split
  · exact hover
  · split <;> exact hover

@[simp]
theorem entryCame_forwarder (c : Crew) (r : ReadingTask) (x : Entry) :
    (c.entryCame who r x).forwarder = c.forwarder := by
  unfold entryCame
  dsimp only
  split <;> rfl

@[simp]
theorem readerFailed_forwarder (c : Crew) (f : Failure) :
    (c.readerFailed who f).forwarder = c.forwarder := by
  unfold readerFailed
  rw [lose_forwarder]

/-- Nobody starts a forwarder. -/
theorem Moves.forwarder {m : Queue.Move} {e : Effect} (h : c.Moves who m e) :
    e.1.forwarder.isSome → c.forwarder.isSome := by
  cases h with
  | took forwarder | put forwarder | forwarderStopped forwarder => simp [forwarder]
  | _ => simp [readerAt]

theorem forwarder_act {a : Act} {e : Effect} (hact : c.act a = some e) :
    e.1.forwarder.isSome → c.forwarder.isSome := by
  cases act_eq_some_iff.mp hact with
  | move moves => exact moves.forwarder
  | publishLost | ackLost =>
    rw [lose_forwarder]
    exact id
  | _ => exact id

end CatalogReplica.Crew
