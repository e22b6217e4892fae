/-
# CatalogReplica.Proofs.Queue.Phases -- the phases of a crew

A crew that has not been told to close is in one of four phases, and from them one can
read off which tasks there are and what the cells hold:

    starting ---> linked <---> recovering ---> stopped
        |                          ^
        +--------------------------+

A loss makes a linked crew recover, whoever reports it; later reports find the loss
reported already. The recovery takes the reader out of the slot, waits for its end, and
then tries to connect until it succeeds. It is stopped only when the queue is let go of.
Closing may come in any phase but the first.

`Next` says what one step can do to the cells, and it is proved once for every step.
-/
import CatalogReplica.Proofs.Queue.Crew.Steps
import Mathlib.Data.List.InsertIdx

namespace CatalogReplica

/-- The changes of the state of a connection. -/
inductive LinkState.Becomes : LinkState → LinkState → Prop where
  | connect : Becomes .disconnected .connected
  | fail : Becomes .disconnected .reconnecting
  | lose : Becomes .connected .reconnecting
  | recover : Becomes .reconnecting .connected
  | close {s : LinkState} (h : s ≠ .closed) : Becomes s .closed

namespace Crew

/-! ## Cells -/

/-- Which tasks and calls there are, and what they share. -/
structure Cells where
  state : LinkState
  isConnected : Bool
  isLossReported : Bool
  firstAttempt : Option Attempt
  recoveries : List RecoveryTask
  /-- Of every reader its number, and whether it was told to stop. -/
  roster : List (Nat × Bool)
  slot : Option Nat
  started : Nat
  calls : List Command
  isClosing : Bool
  isReleased : Bool
  /-- Whether the queue is for publishing only. -/
  writeOnly : Bool

/-- The entry of a reader in the roster. -/
def ReadingTask.tag (r : ReadingTask) : Nat × Bool := (r.number, r.isStopping)

def cells (c : Crew) : Cells where
  state := c.state
  isConnected := c.isConnected
  isLossReported := c.isLossReported
  firstAttempt := c.firstAttempt
  recoveries := c.recoveries
  roster := c.readers.map ReadingTask.tag
  slot := c.slot
  started := c.started
  calls := c.calls
  isClosing := c.isClosing
  isReleased := c.isReleased
  writeOnly := c.settings.writeOnly

/-- Whether the tasks have been told to end. -/
def Cells.isEnding (k : Cells) : Bool := k.isClosing || k.isReleased

/-! ## Phases -/

/-- What a recovery has left of the readers: the one in the slot, then the one that it
has told to stop, and then none. -/
def RecoveryTask.Leaves (slot : Option Nat) (roster : List (Nat × Bool)) : RecoveryTask → Prop
  | started => ∀ t ∈ roster, slot = some t.1 ∧ t.2 = false
  | joining reader => ∀ t ∈ roster, reader = some t.1 ∧ t.2 = true
  | _ => roster = []

/-- One recovery makes good the loss that was reported. -/
structure Recovering (k : Cells) (r : RecoveryTask) : Prop where
  created : k.firstAttempt = none
  state : k.state = .reconnecting
  reported : k.isLossReported = true
  recovery : k.recoveries = [r]
  left : r.Leaves k.slot k.roster
  opened : k.isClosing = false

/-- The phases of a crew. -/
inductive Phase (k : Cells) : Prop where
  /-- The first attempt to connect is under way, and nobody has the queue yet. -/
  | starting (first : k.firstAttempt.isSome) (state : k.state = .disconnected)
      (unlinked : k.isConnected = false) (unreported : k.isLossReported = false)
      (unrecovered : k.recoveries = []) (unread : k.roster = []) (uncalled : k.calls = [])
      (opened : k.isClosing = false) (owned : k.isReleased = false)
  | linked (created : k.firstAttempt = none) (state : k.state = .connected)
      (connected : k.isConnected = true) (unreported : k.isLossReported = false)
      (unrecovered : k.recoveries = [])
      (placed : ∀ t ∈ k.roster, k.slot = some t.1 ∧ t.2 = false) (opened : k.isClosing = false)
  | recovering (r : RecoveryTask) (recovering : Recovering k r)
  | stopped (created : k.firstAttempt = none) (state : k.state = .reconnecting)
      (reported : k.isLossReported = true) (unrecovered : k.recoveries = [])
      (unread : k.roster = []) (opened : k.isClosing = false) (released : k.isReleased = true)
  /-- The crew was told to close. -/
  | closing (created : k.firstAttempt = none) (single : k.recoveries.length ≤ 1)
      (closing : k.isClosing = true)

/-- What is true of the cells at all times. -/
structure Sound (k : Cells) : Prop where
  phase : Phase k
  single : k.roster.length ≤ 1
  /-- A reader that has not ended is the one that was started last. -/
  latest : ∀ t ∈ k.roster, t.1 + 1 = k.started
  /-- A queue that only publishes has no reader. -/
  unread : k.writeOnly = true → k.started = 0

/-- What no step undoes. -/
structure Lasting (k k' : Cells) : Prop where
  created : k.firstAttempt = none → k'.firstAttempt = none
  ending : k.isEnding = true → k'.isEnding = true
  writeOnly : k'.writeOnly = k.writeOnly

/-- What a step can do to the cells. -/
structure Next (k k' : Cells) : Prop where
  sound : Sound k'
  state : k'.state = k.state ∨ k.state.Becomes k'.state
  /-- No reader is started, or one where there is none. -/
  relief : k'.started = k.started ∧ (k.roster = [] → k'.roster = []) ∨
    k'.started = k.started + 1 ∧ k.roster = []
  lasting : Lasting k k'

variable {c : Crew} {k : Cells} {who : Nat} {r : RecoveryTask}

theorem eraseIdx_eq_nil {α : Type} {tasks : List α} (h : tasks = []) (who : Nat) :
    tasks.eraseIdx who = [] := by
  rw [h]
  rfl

/-- Whatever has been left of the readers, one that ends is not missed. -/
theorem RecoveryTask.Leaves.erase {slot : Option Nat} {roster : List (Nat × Bool)}
    (h : r.Leaves slot roster) (who : Nat) : r.Leaves slot (roster.eraseIdx who) := by
  cases r with
  | started => exact fun t ht => h t (List.mem_of_mem_eraseIdx ht)
  | joining reader => exact fun t ht => h t (List.mem_of_mem_eraseIdx ht)
  | waiting => exact eraseIdx_eq_nil h who
  | connecting a => exact eraseIdx_eq_nil h who
  | broken => exact eraseIdx_eq_nil h who

namespace Phase

theorem recoveries_le (h : Phase k) : k.recoveries.length ≤ 1 := by
  cases h with
  | starting _ _ _ _ unrecovered => simp [unrecovered]
  | linked _ _ _ _ unrecovered => simp [unrecovered]
  | recovering r recovering => simp [recovering.recovery]
  | stopped _ _ _ unrecovered => simp [unrecovered]
  | closing _ single => exact single

/-- While the first attempt to connect is under way, there is nothing else. -/
theorem starting_of_some (h : Phase k) {a : Attempt} (hfirst : k.firstAttempt = some a) :
    k.state = .disconnected ∧ k.isConnected = false ∧ k.isLossReported = false ∧
      k.recoveries = [] ∧ k.roster = [] ∧ k.calls = [] ∧ k.isClosing = false ∧
        k.isReleased = false := by
  have hsome : k.firstAttempt ≠ none := by simp [hfirst]
  cases h with
  | starting _ state unlinked unreported unrecovered unread uncalled opened owned =>
    exact ⟨state, unlinked, unreported, unrecovered, unread, uncalled, opened, owned⟩
  | linked created => exact absurd created hsome
  | recovering r recovering => exact absurd recovering.created hsome
  | stopped created => exact absurd created hsome
  | closing created => exact absurd created hsome

/-- Where there is a reader, a call or a connection, or the crew closes, the first attempt
to connect is over. -/
theorem created_of_busy (h : Phase k)
    (hbusy : k.roster ≠ [] ∨ k.calls ≠ [] ∨ k.isConnected = true ∨ k.isClosing = true) :
    k.firstAttempt = none := by
  cases hfirst : k.firstAttempt with
  | none => rfl
  | some a =>
    obtain ⟨_, unlinked, _, _, unread, uncalled, opened, _⟩ := h.starting_of_some hfirst
    simp [unlinked, unread, uncalled, opened] at hbusy

/-- Until the crew closes, there is no recovery but that of the phase `recovering`. -/
theorem recovering_or_closing (h : Phase k) (hr : k.recoveries[who]? = some r) :
    who = 0 ∧ Recovering k r ∨ k.isClosing = true := by
  cases h with
  | starting _ _ _ _ unrecovered => simp [unrecovered] at hr
  | linked _ _ _ _ unrecovered => simp [unrecovered] at hr
  | recovering r' recovering =>
    rw [recovering.recovery, List.getElem?_singleton] at hr
    split at hr
    · cases hr
      exact .inl ⟨‹_›, recovering⟩
    · cases hr
  | stopped _ _ _ unrecovered => simp [unrecovered] at hr
  | closing _ _ closing => exact .inr closing

/-- A reader may end in every phase. -/
theorem erase (h : Phase k) (who : Nat) : Phase { k with roster := k.roster.eraseIdx who } := by
  cases h with
  | starting first state unlinked unreported unrecovered unread uncalled opened owned =>
    exact .starting first state unlinked unreported unrecovered (eraseIdx_eq_nil unread who)
      uncalled opened owned
  | linked created state connected unreported unrecovered placed opened =>
    exact .linked created state connected unreported unrecovered
      (fun t ht => placed t (List.mem_of_mem_eraseIdx ht)) opened
  | recovering r recovering =>
    exact .recovering r { recovering with left := recovering.left.erase who }
  | stopped created state reported unrecovered unread opened released =>
    exact .stopped created state reported unrecovered (eraseIdx_eq_nil unread who) opened released
  | closing created single closing => exact .closing created single closing

/-- Once the queue was created, calls come and go. -/
theorem withCalls (h : Phase k) (hcreated : k.firstAttempt = none) (calls : List Command) :
    Phase { k with calls := calls } := by
  cases h with
  | starting first => simp [hcreated] at first
  | linked created state connected unreported unrecovered placed opened =>
    exact .linked created state connected unreported unrecovered placed opened
  | recovering r recovering => exact .recovering r { recovering with }
  | stopped created state reported unrecovered unread opened released =>
    exact .stopped created state reported unrecovered unread opened released
  | closing created single closing => exact .closing created single closing

end Phase

/-- The reader that a recovery waits for has ended when there is none any more. -/
theorem all_isOver_iff {reader : Option Nat} (h : Recovering c.cells (.joining reader)) :
    reader.all c.isOver = true ↔ c.readers = [] := by
  constructor
  · intro hover
    apply List.eq_nil_iff_forall_not_mem.mpr
    intro r hr
    have hreader : reader = some r.number := (h.left r.tag (List.mem_map_of_mem hr)).1
    rw [hreader] at hover
    exact of_decide_eq_true (List.all_eq_true.mp hover r hr) rfl
  · intro hunread
    cases reader with
    | none => rfl
    | some n => simp [isOver, hunread]

/-! ## Small changes -/

theorem Lasting.trans {k' k'' : Cells} (h : Lasting k k') (h' : Lasting k' k'') : Lasting k k'' :=
  ⟨h'.created ∘ h.created, h'.ending ∘ h.ending, h'.writeOnly.trans h.writeOnly⟩

namespace Next

/-- A step that leaves the cells as they are. -/
theorem of_eq (h : Sound k) {k' : Cells} (heq : k' = k) : Next k k' := by
  subst heq
  exact ⟨h, .inl rfl, .inl ⟨rfl, id⟩, ⟨id, id, rfl⟩⟩

/-- A step that does not change the state and starts no reader. -/
theorem of_sound {k' : Cells} (h : Sound k') (hstate : k'.state = k.state)
    (hstarted : k'.started = k.started) (hroster : k.roster = [] → k'.roster = [])
    (hlasting : Lasting k k') : Next k k' :=
  ⟨h, .inl hstate, .inl ⟨hstarted, hroster⟩, hlasting⟩

end Next

/-- The end of a reader leaves the cells sound. -/
theorem Sound.erase (h : Sound k) (who : Nat) :
    Sound { k with roster := k.roster.eraseIdx who } where
  phase := h.phase.erase who
  single := Nat.le_trans (List.eraseIdx_sublist ..).length_le h.single
  latest t ht := h.latest t (List.mem_of_mem_eraseIdx ht)
  unread := h.unread

theorem Sound.withCalls (h : Sound k) (hcreated : k.firstAttempt = none) (calls : List Command) :
    Sound { k with calls := calls } :=
  ⟨h.phase.withCalls hcreated calls, h.single, h.latest, h.unread⟩

/-- The cells after the report of a loss. -/
def Cells.lose (k : Cells) : Cells :=
  if k.isClosing || k.isLossReported then k
  else
    { k with
      state := .reconnecting
      isLossReported := true
      recoveries := k.recoveries ++ [.started] }

@[simp]
theorem lose_cells (c : Crew) (f : Failure) : (c.lose f).cells = c.cells.lose := by
  unfold Crew.lose
  split
  case isTrue h => exact (if_pos h).symm
  case isFalse h => exact (if_neg h).symm

@[simp]
theorem Cells.lose_started (k : Cells) : k.lose.started = k.started := by
  unfold Cells.lose
  split <;> rfl

@[simp]
theorem Cells.lose_roster (k : Cells) : k.lose.roster = k.roster := by
  unfold Cells.lose
  split <;> rfl

/-- A report of a loss starts the one recovery there is, or none. -/
theorem Next.lose (h : Sound k) (hcreated : k.firstAttempt = none) : Next k k.lose := by
  unfold Cells.lose
  split
  case isTrue => exact .of_eq h rfl
  case isFalse hopen =>
    rw [Bool.or_eq_true, not_or] at hopen
    cases h.phase with
    | starting first => simp [hcreated] at first
    | linked created state connected unreported unrecovered placed opened =>
      refine ⟨⟨.recovering .started ?_, h.single, h.latest, h.unread⟩, .inr ?_, .inl ⟨rfl, id⟩,
        ⟨id, id, rfl⟩⟩
      · refine ⟨created, rfl, rfl, ?_, placed, opened⟩
        show k.recoveries ++ [.started] = [.started]
        rw [unrecovered]
        rfl
      · rw [state]
        exact .lose
    | recovering r recovering => exact absurd recovering.reported hopen.2
    | stopped _ _ reported => exact absurd reported hopen.2
    | closing _ _ closing => exact absurd closing hopen.1

/-- The same, where a call has ended or a reader has. -/
theorem Next.lose_after {k' : Cells} (h : Sound k') (hcreated : k'.firstAttempt = none)
    (hstate : k'.state = k.state) (hstarted : k'.started = k.started)
    (hroster : k.roster = [] → k'.roster = []) (hlasting : Lasting k k') : Next k k'.lose := by
  have hnext := Next.lose h hcreated
  refine ⟨hnext.sound, ?_, .inl ⟨?_, ?_⟩, hlasting.trans hnext.lasting⟩
  · rw [← hstate]
    exact hnext.state
  · rw [Cells.lose_started]
    exact hstarted
  · rw [Cells.lose_roster]
    exact hroster

/-! ## Connecting -/

/-- After the first attempt to connect, only recoveries make attempts. -/
theorem connecting_of_attempt {a : Attempt} (h : c.attempt? who = some a)
    (hcreated : c.firstAttempt = none) : c.recoveries[who]? = some (.connecting a) := by
  unfold attempt? at h
  rw [hcreated] at h
  split at h
  case h_1 hfirst => cases hfirst
  case h_2 hrecovery =>
    cases h
    exact hrecovery
  case h_3 => cases h

/-- The recovery goes on, and may change what it has left of the readers. -/
theorem Next.recoveryGoesOn (h : Sound k) (hr : k.recoveries[who]? = some r) {r' : RecoveryTask}
    {roster' : List (Nat × Bool)} {slot' : Option Nat} {isConnected' : Bool}
    (hleft : Recovering k r → r'.Leaves slot' roster') (hsingle : roster'.length ≤ 1)
    (hlatest : ∀ t ∈ roster', t.1 + 1 = k.started) (hroster : k.roster = [] → roster' = []) :
    Next k { k with
      recoveries := k.recoveries.set who r'
      roster := roster'
      slot := slot'
      isConnected := isConnected' } := by
  refine .of_sound ⟨?_, hsingle, hlatest, h.unread⟩ rfl rfl hroster ⟨id, id, rfl⟩
  rcases h.phase.recovering_or_closing hr with ⟨rfl, hrecovering⟩ | hclosing
  · refine .recovering r' { hrecovering with recovery := ?_, left := hleft hrecovering }
    show k.recoveries.set 0 r' = [r']
    rw [hrecovering.recovery]
    rfl
  · refine .closing (h.phase.created_of_busy (.inr (.inr (.inr hclosing)))) ?_ hclosing
    show (k.recoveries.set who r').length ≤ 1
    rw [List.length_set]
    exact h.phase.recoveries_le

theorem Next.goOn (h : Sound c.cells) {a : Attempt} (ha : c.attempt? who = some a) (b : Attempt) :
    Next c.cells (c.goOn who b).cells := by
  unfold Crew.goOn
  split
  case h_1 hfirst =>
    show Next c.cells { c.cells with firstAttempt := some b }
    obtain ⟨state, unlinked, unreported, unrecovered, unread, uncalled, opened, owned⟩ :=
      h.phase.starting_of_some hfirst
    have hlasting : Lasting c.cells { c.cells with firstAttempt := some b } :=
      ⟨fun hcreated => absurd (hfirst.symm.trans hcreated) (by simp), id, rfl⟩
    refine .of_sound ⟨?_, h.single, h.latest, h.unread⟩ rfl rfl id hlasting
    exact .starting rfl state unlinked unreported unrecovered unread uncalled opened owned
  case h_2 hcreated =>
    have hconnecting := connecting_of_attempt ha hcreated
    exact .recoveryGoesOn h hconnecting (fun hrecovering => hrecovering.left) h.single h.latest id

/-- After an attempt that failed the recovery waits for the next one. -/
theorem Next.attemptFailed (h : Sound c.cells) {a : Attempt} (ha : c.attempt? who = some a)
    (f : Failure) : Next c.cells (c.attemptFailed who f).cells := by
  unfold Crew.attemptFailed
  dsimp only
  split
  case h_1 hfirst =>
    -- the end of the first attempt starts the recovery
    rw [lose_cells]
    show Next c.cells (Cells.lose { c.cells with firstAttempt := none })
    obtain ⟨state, _, unreported, unrecovered, unread, _, opened, _⟩ :=
      h.phase.starting_of_some hfirst
    have hopen : ¬ (c.cells.isClosing || c.cells.isLossReported) = true := by
      simp [opened, unreported]
    rw [Cells.lose, if_neg hopen]
    refine ⟨⟨.recovering .started ?_, h.single, h.latest, h.unread⟩, .inr ?_, .inl ⟨rfl, id⟩,
      ⟨fun _ => rfl, id, rfl⟩⟩
    · refine ⟨rfl, rfl, rfl, ?_, ?_, opened⟩
      · show c.cells.recoveries ++ [.started] = [.started]
        rw [unrecovered]
        rfl
      · show ∀ t ∈ c.cells.roster, _
        rw [unread]
        exact fun t ht => absurd ht List.not_mem_nil
    · rw [state]
      exact .fail
  case h_2 hcreated =>
    have hconnecting := connecting_of_attempt ha hcreated
    exact .recoveryGoesOn h hconnecting (fun hrecovering => hrecovering.left) h.single h.latest id

/-- The cells when a connection is held and nothing else has happened. -/
def Cells.link (k : Cells) : Cells :=
  { k with state := .connected, isConnected := true, isLossReported := false }

/-- A reader is started where there is none. -/
theorem startReader_cells (hunread : c.readers = []) :
    c.startReader.cells = { c.cells with
      roster := [(c.started, false)]
      slot := some c.started
      started := c.started + 1 } := by
  unfold startReader cells readersTold
  rw [hunread]
  rfl

/-- The cells of a crew that holds a connection and has no reader. -/
theorem Sound.link (hcreated : k.firstAttempt = none) (hrecovered : k.recoveries = [])
    (hunread : k.roster = []) (hopen : k.isClosing = false)
    (hwriteOnly : k.writeOnly = true → k.started = 0) : Sound k.link := by
  have hnone : ∀ t, t ∉ k.roster := fun t ht => by
    rw [hunread] at ht
    cases ht
  refine ⟨.linked hcreated rfl rfl rfl hrecovered ?_ hopen, ?_, ?_, hwriteOnly⟩
  · exact fun t ht => absurd ht (hnone t)
  · show k.roster.length ≤ 1
    simp [hunread]
  · exact fun t ht => absurd ht (hnone t)

/-- The cells of a crew that holds a connection and has a new reader. -/
theorem Sound.linkReader (hcreated : k.firstAttempt = none) (hrecovered : k.recoveries = [])
    (hopen : k.isClosing = false) (hreads : k.writeOnly = false) :
    Sound { k.link with
      roster := [(k.started, false)], slot := some k.started, started := k.started + 1 } := by
  refine ⟨.linked hcreated rfl rfl rfl hrecovered ?_ hopen, Nat.le_refl 1, ?_, ?_⟩
  · intro t ht
    rw [List.mem_singleton.mp ht]
    exact ⟨rfl, rfl⟩
  · intro t ht
    rw [List.mem_singleton.mp ht]
  · intro hwriteOnly
    rw [show k.writeOnly = true from hwriteOnly] at hreads
    cases hreads

/-- What is left when an attempt is over: nothing is under way, unless the crew closes. -/
structure Over (k k' : Cells) : Prop where
  created : k'.firstAttempt = none
  state : k'.state = k.state
  started : k'.started = k.started
  roster : k'.roster = k.roster
  isClosing : k'.isClosing = k.isClosing
  lasting : Lasting k k'
  /-- The attempt was the first one, or that of the recovery. -/
  idle : k.isClosing = false → k'.recoveries = [] ∧ k.roster = [] ∧
    (k.state = .disconnected ∨ k.state = .reconnecting)
  single : k'.recoveries.length ≤ 1

theorem over_attemptOver (h : Sound c.cells) {a : Attempt} (ha : c.attempt? who = some a) :
    Over c.cells (c.attemptOver who).cells := by
  unfold attemptOver
  split
  case h_1 hfirst =>
    obtain ⟨state, _, _, unrecovered, unread, _⟩ := h.phase.starting_of_some hfirst
    refine ⟨rfl, rfl, rfl, rfl, rfl, ⟨fun _ => rfl, id, rfl⟩,
      fun _ => ⟨unrecovered, unread, .inl state⟩, ?_⟩
    exact h.phase.recoveries_le
  case h_2 hcreated =>
    have hconnecting := connecting_of_attempt ha hcreated
    refine ⟨hcreated, rfl, rfl, rfl, rfl, ⟨id, id, rfl⟩, fun hopen => ?_, ?_⟩
    · rcases h.phase.recovering_or_closing hconnecting with ⟨rfl, hrecovering⟩ | hclosing
      · refine ⟨?_, hrecovering.left, .inr hrecovering.state⟩
        show c.cells.recoveries.eraseIdx 0 = []
        rw [hrecovering.recovery]
        rfl
      · rw [hopen] at hclosing
        cases hclosing
    · exact Nat.le_trans (List.eraseIdx_sublist ..).length_le h.phase.recoveries_le

/-- The first connection, or another one after a loss. -/
theorem becomes_connected {s : LinkState} (h : s = .disconnected ∨ s = .reconnecting) :
    s.Becomes .connected := by
  rcases h with rfl | rfl
  · exact .connect
  · exact .recover

theorem Next.attemptSucceeded (h : Sound c.cells) {a : Attempt} (ha : c.attempt? who = some a) :
    Next c.cells (c.attemptSucceeded who).cells := by
  unfold Crew.attemptSucceeded
  generalize hover : (c.measure (.connectionAttempt true)).attemptOver who = c'
  have ho : Over c.cells c'.cells := by
    rw [← hover]
    exact over_attemptOver (c := c.measure (.connectionAttempt true)) h ha
  have hroster : c.cells.roster = [] → c'.cells.roster = [] := fun hunread =>
    ho.roster.trans hunread
  have hwriteOnly : c'.cells.writeOnly = true → c'.cells.started = 0 := by
    rw [ho.lasting.writeOnly, ho.started]
    exact h.unread
  dsimp only
  split
  case isTrue hclosing =>
    have hsound : Sound c'.cells := by
      refine ⟨.closing ho.created ho.single hclosing, ?_, ?_, hwriteOnly⟩
      · rw [ho.roster]
        exact h.single
      · rw [ho.roster, ho.started]
        exact h.latest
    exact .of_sound hsound ho.state ho.started hroster ho.lasting
  case isFalse hclosing =>
    have hopen : c'.cells.isClosing = false := Bool.eq_false_iff.mpr hclosing
    obtain ⟨hrecovered, hunread, hstate⟩ := ho.idle (ho.isClosing ▸ hopen)
    have hbecomes : c.cells.state.Becomes .connected := becomes_connected hstate
    split
    case isTrue =>
      have hsound := Sound.link ho.created hrecovered (hroster hunread) hopen hwriteOnly
      exact ⟨hsound, .inr hbecomes, .inl ⟨ho.started, hroster⟩, { ho.lasting with }⟩
    case isFalse hreads =>
      have hreaders : c'.link.readers = [] := List.map_eq_nil_iff.mp (hroster hunread)
      have hsound := Sound.linkReader ho.created hrecovered hopen (Bool.eq_false_iff.mpr hreads)
      rw [startReader_cells hreaders]
      exact ⟨hsound, .inr hbecomes, .inr ⟨congrArg (· + 1) ho.started, hunread⟩,
        { ho.lasting with }⟩

end Crew
end CatalogReplica
