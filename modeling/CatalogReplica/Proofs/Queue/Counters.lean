/-
# CatalogReplica.Proofs.Queue.Counters -- what the counters of a queue count

The tasks and calls of a queue count what they do, each in a place of its own. What they
should count can be seen from outside: entries that readers get, commands of callers that
were answered or failed, and the times that the state becomes `reconnecting`. One step does
at most one thing of each kind, and then it is counted once.
-/
import CatalogReplica.Proofs.Metrics.Values
import CatalogReplica.Proofs.Queue.Appending

namespace CatalogReplica

/-- Whether a command acknowledges an entry. -/
def Command.isAcknowledge : Command → Bool
  | acknowledge .. => true
  | _ => false

/-- Whether a command appends an entry. -/
def Command.isAppend : Command → Bool
  | append .. => true
  | _ => false

/-! ## Entries and how they came -/

theorem Consumer.redelivered_of_claimed {k k' : Consumer} {o : Outcome} {e : Entry}
    (h : k.claimed o = .ok (some e, k')) : e.redelivered = true := by
  obtain ⟨reply, -, h⟩ := exists_of_bind_eq_ok h
  split at h
  · cases h
  · obtain ⟨hfound, -⟩ := Prod.mk.inj (Except.ok.inj h)
    obtain ⟨x, -, rfl⟩ := Option.map_eq_some_iff.mp hfound
    rfl

theorem ReadReply.redelivered_of_entry? {r : Reply} {e : Entry}
    (h : ReadReply.entry? r = some (some e)) : e.redelivered = false := by
  obtain ⟨rows, -, h⟩ := Option.bind_eq_some_iff.mp h
  obtain ⟨⟨id, fields⟩, -, rfl⟩ := Option.map_eq_some_iff.mp (Option.some.inj h)
  rfl

theorem Consumer.redelivered_of_read {o : Outcome} {e : Entry}
    (h : Consumer.read o = .ok (some e)) : e.redelivered = false := by
  obtain ⟨reply, -, hreply⟩ := Outcome.value_eq_ok_iff.mp h
  exact ReadReply.redelivered_of_entry? hreply

namespace Crew

/-! ## What happens in a step -/

/-- The entry that a reader gets. -/
def entry? (c : Crew) : Act → Option Entry
  | .move _ m => c.queue.entry? m
  | _ => none

theorem entry?_claimAnswered (c : Crew) (who : Nat) (o : Outcome) :
    c.entry? (.move who (.claimAnswered o)) =
      (c.consumer.claimed o).toOption.bind Prod.fst := by
  simp only [Crew.entry?, Queue.entry?]
  split <;> rename_i hclaimed
  · rw [show c.consumer.claimed o = _ from hclaimed]
    rfl
  · rw [show c.consumer.claimed o = _ from hclaimed]
    rfl

theorem entry?_readAnswered (c : Crew) (who : Nat) (o : Outcome) :
    c.entry? (.move who (.readAnswered o)) = (Consumer.read o).toOption.bind id := by
  simp only [Crew.entry?, Queue.entry?]
  split <;> rename_i hread
  · rw [hread]
    rfl
  · rw [hread]
    rfl

/-- Whether a claim was answered, or failed. -/
def Act.isClaim : Act → Bool
  | .move _ (.claimAnswered _) => true
  | _ => false

/-- The command of a caller that was answered, or failed. -/
def ended? (c : Crew) : Act → Option Command
  | .answered call _ => c.calls[call]?
  | _ => none

/-- What the tasks and calls report to be done, the losses of connections apart. -/
inductive Report where
  /-- A reader got an entry. -/
  | entry
  /-- A reader got an entry by a claim, and could decode it. -/
  | redelivery
  | acknowledgement
  | publication
  deriving DecidableEq

namespace Report

/-- The counters for what is reported. -/
def names : Report → List String
  | entry => ["catalog_queue_deliveries_total", "catalog_queue_decode_failures_total"]
  | redelivery => ["catalog_queue_redeliveries_total"]
  | acknowledgement => ["catalog_queue_acks_total"]
  | publication => ["catalog_queue_published_total"]

/-- Whether an act is one that is to be reported. -/
def isDueTo (c : Crew) (a : Act) : Report → Bool
  | entry => (c.entry? a).isSome
  | redelivery => a.isClaim && ((c.entry? a).bind Entry.event?).isSome
  | acknowledgement => (c.ended? a).any Command.isAcknowledge
  | publication => (c.ended? a).any Command.isAppend

/-- Whether a measurement is a report. -/
def isMadeBy : Measurement → Report → Bool
  | .delivered .., entry | .undecodable _, entry => true
  | .delivered _ redelivered, redelivery => redelivered
  | .acknowledged .., acknowledgement | .published .., publication => true
  | _, _ => false

end Report

/-- The counters for the losses of connections. -/
def lossNames : List String := ["catalog_queue_connections_lost_total"]

/-- Whether the state becomes `reconnecting`. -/
def Loses (c c' : Crew) : Prop := c.state ≠ .reconnecting ∧ c'.state = .reconnecting

instance (c c' : Crew) : Decidable (Loses c c') :=
  inferInstanceAs (Decidable (_ ∧ _))

/-- A loss that has been reported shows in the state, until it is made good or the queue
closes. -/
def TellsLoss (c : Crew) : Prop :=
  (c.isClosing || c.isLossReported) = false → c.state ≠ .reconnecting

theorem Sound.tellsLoss {c : Crew} (h : Sound c.cells) : TellsLoss c := by
  intro hopen
  rw [Bool.or_eq_false_iff] at hopen
  cases h.phase with
  | starting _ state => exact ne_of_eq_of_ne (show c.state = .disconnected from state) nofun
  | linked _ state => exact ne_of_eq_of_ne (show c.state = .connected from state) nofun
  | recovering r recovering => exact absurd recovering.reported (Bool.eq_false_iff.mp hopen.2)
  | stopped _ _ reported => exact absurd reported (Bool.eq_false_iff.mp hopen.2)
  | closing _ _ closing => exact absurd closing (Bool.eq_false_iff.mp hopen.1)

/-- What is counted in a step: these reports, each once, and a loss if there is one. -/
structure Counts (due : Report → Bool) (c c' : Crew) : Prop where
  reports : ∀ r, c'.measurements.added r.names =
    c.measurements.added r.names + if due r then 1 else 0
  losses : c'.measurements.added lossNames =
    c.measurements.added lossNames + if Loses c c' then 1 else 0

/-- Nothing is reported. -/
def nothing : Report → Bool := fun _ => false

variable {due : Report → Bool} {c c' c'' : Crew}

/-- Every report is counted once, under its own name. -/
theorem added_report (m : Measurement) (r : Report) :
    Measurements.added r.names [m] = if r.isMadeBy m then 1 else 0 := by
  cases m with
  | delivered stream redelivered => cases redelivered <;> cases r <;> rfl
  | _ => cases r <;> rfl

/-- Whether a measurement is that of a loss. -/
def isLoss : Measurement → Bool
  | .connectionLost _ => true
  | _ => false

theorem added_loss (m : Measurement) :
    Measurements.added lossNames [m] = if isLoss m then 1 else 0 := by
  cases m with
  | delivered stream redelivered => cases redelivered <;> rfl
  | _ => rfl

/-! ## Putting steps together -/

theorem not_loses_of_eq (h : c'.state = c.state) : ¬ Loses c c' := by
  rintro ⟨hbefore, hafter⟩
  exact hbefore (h ▸ hafter)

namespace Counts

theorem of_eq (hmeasurements : c'.measurements = c.measurements) (hstate : c'.state = c.state) :
    Counts nothing c c' where
  reports r := by rw [hmeasurements]; rfl
  losses := by rw [hmeasurements, if_neg (not_loses_of_eq hstate), Nat.add_zero]

/-- What happens before the state changes comes first. -/
theorem trans (h : Counts due c c') (h' : Counts nothing c' c'') (hstate : c'.state = c.state) :
    Counts due c c'' where
  reports r := (h'.reports r).trans (h.reports r)
  losses := by
    have hiff : Loses c' c'' ↔ Loses c c'' := by
      rw [Loses, Loses, hstate]
    rw [h'.losses, h.losses, if_neg (not_loses_of_eq hstate), Nat.add_zero]
    simp only [hiff]

/-- What else changes does not matter. -/
theorem keep (h : Counts due c c') (hmeasurements : c''.measurements = c'.measurements)
    (hstate : c''.state = c'.state) : Counts due c c'' where
  reports r := by rw [hmeasurements, h.reports]
  losses := by
    have hiff : Loses c c'' ↔ Loses c c' := by
      rw [Loses, Loses, hstate]
    rw [hmeasurements, h.losses]
    simp only [hiff]

/-- What changes first does not matter either. -/
theorem change (h : Counts due c' c'') (hmeasurements : c'.measurements = c.measurements)
    (hstate : c'.state = c.state) : Counts due c c'' where
  reports r := by rw [← hmeasurements, h.reports]
  losses := by
    have hiff : Loses c' c'' ↔ Loses c c'' := by
      rw [Loses, Loses, hstate]
    rw [← hmeasurements, h.losses]
    simp only [hiff]

/-- What is counted with the measurements that a step adds. -/
theorem of_append {ms : Measurements} (hmeasurements : c'.measurements = c.measurements ++ ms)
    (hreports : ∀ r, ms.added r.names = if due r then 1 else 0)
    (hlosses : ms.added lossNames = if Loses c c' then 1 else 0) : Counts due c c' where
  reports r := by rw [hmeasurements, Measurements.added_append, hreports]
  losses := by rw [hmeasurements, Measurements.added_append, hlosses]

theorem measure (c : Crew) {m : Measurement} (hm : isLoss m = false)
    (hdue : ∀ r, r.isMadeBy m = due r) : Counts due c (c.measure m) := by
  have hkept : ¬ Loses c (c.measure m) := not_loses_of_eq rfl
  refine .of_append rfl (fun r => ?_) ?_
  · rw [added_report, hdue]
  · rw [added_loss, hm, if_neg hkept]
    rfl

/-- The state becomes one that does not come from a loss. -/
theorem enter (c : Crew) {s : LinkState} (hs : s ≠ .reconnecting) :
    Counts nothing c (c.enter s) := by
  have hkept : ¬ Loses c (c.enter s) := fun h => hs h.2
  have hms : (c.enter s).measurements = c.measurements ++ [.queueState s.name] := rfl
  refine .of_append hms (fun r => ?_) ?_
  · rw [added_report]
    cases r <;> rfl
  · rw [if_neg hkept, added_loss]
    rfl

/-- A loss that is not reported yet finds another state than `reconnecting`. -/
theorem lose (h : TellsLoss c) (f : Failure) : Counts nothing c (c.lose f) := by
  unfold Crew.lose
  split
  case isTrue => exact .of_eq rfl rfl
  case isFalse hopen =>
    have hbefore : c.state ≠ .reconnecting := h (Bool.eq_false_iff.mpr hopen)
    have hms : c.measurements ++ [.connectionLost (Queue.lossLabel f)] ++
        [.queueState LinkState.reconnecting.name] = c.measurements ++
          [.connectionLost (Queue.lossLabel f), .queueState LinkState.reconnecting.name] :=
      List.append_assoc ..
    refine .of_append hms (fun r => ?_) ?_
    · rw [← List.singleton_append, Measurements.added_append, added_report, added_report]
      cases r <;> rfl
    · rw [if_pos ⟨hbefore, rfl⟩, ← List.singleton_append, Measurements.added_append, added_loss,
        added_loss]
      rfl

end Counts

/-! ## One step -/

section Steps

variable {who : Nat}

/-- What is counted when a step ends with a loss. -/
theorem Counts.loses (h : Counts due c c') (hloss : TellsLoss c) (f : Failure)
    (hstate : c'.state = c.state) (hclosing : c'.isClosing = c.isClosing)
    (hreported : c'.isLossReported = c.isLossReported) : Counts due c (c'.lose f) := by
  have hloss' : TellsLoss c' := by
    rwa [TellsLoss, hclosing, hreported, hstate]
  exact h.trans (.lose hloss' f) hstate

theorem counts_goOn (c : Crew) (who : Nat) (a : Attempt) : Counts nothing c (c.goOn who a) := by
  unfold goOn
  split
  · exact .of_eq rfl rfl
  · exact .of_eq rfl rfl

theorem counts_attempt (c : Crew) (success : Bool) :
    Counts nothing c (c.measure (.connectionAttempt success)) := by
  refine .measure c rfl fun r => ?_
  cases r <;> rfl

theorem counts_attemptFailed (h : TellsLoss c) (who : Nat) (f : Failure) :
    Counts nothing c (c.attemptFailed who f) := by
  have hmeasured := counts_attempt c false
  unfold attemptFailed
  dsimp only
  split
  · refine .loses ?_ h f rfl rfl rfl
    exact hmeasured.keep rfl rfl
  · exact hmeasured.keep rfl rfl

theorem counts_attemptSucceeded (c : Crew) (who : Nat) :
    Counts nothing c (c.attemptSucceeded who) := by
  have hmeasured := counts_attempt c true
  generalize hover : (c.measure (.connectionAttempt true)).attemptOver who = c'
  have hkept : Counts nothing c c' ∧ c'.state = c.state := by
    rw [← hover]
    unfold attemptOver
    split
    · exact ⟨hmeasured.keep rfl rfl, rfl⟩
    · exact ⟨hmeasured.keep rfl rfl, rfl⟩
  obtain ⟨hcounts, hstate⟩ := hkept
  have hlink : Counts nothing c c'.link := by
    have henter := Counts.enter (s := .connected)
      { c' with isConnected := true, isLossReported := false } (by decide)
    exact hcounts.trans (henter.change rfl rfl) hstate
  unfold attemptSucceeded
  dsimp only
  rw [hover]
  split
  · exact hcounts
  · split
    · exact hlink
    · exact hlink.keep rfl rfl

theorem counts_readerFailed (h : TellsLoss c) (who : Nat) (f : Failure) :
    Counts nothing c (c.readerFailed who f) := by
  refine .loses ?_ h f rfl rfl rfl
  exact .of_eq rfl rfl

/-- An entry is counted as delivered or as undecodable, and as redelivered if it was claimed
and can be decoded. -/
def entryDue (e : Entry) : Report → Bool
  | .entry => true
  | .redelivery => e.redelivered && e.event?.isSome
  | _ => false

theorem counts_entryCame (c : Crew) (who : Nat) (r : ReadingTask) (e : Entry) :
    Counts (entryDue e) c (c.entryCame who r e) := by
  unfold entryCame
  dsimp only
  split
  case h_1 f hdecode =>
    refine .change (.measure _ rfl fun report => ?_) rfl rfl
    cases report <;> simp [Report.isMadeBy, entryDue, Entry.event?, hdecode]
  case h_2 id change hdecode =>
    refine .change (.measure _ rfl fun report => ?_) rfl rfl
    cases report <;> simp [Report.isMadeBy, entryDue, Entry.event?, hdecode]

theorem Counts.congr {due' : Report → Bool} (h : Counts due c c') (hdue : ∀ r, due' r = due r) :
    Counts due' c c' := by
  rwa [funext hdue]

variable {e : Effect}

section Due

variable {a : Act}

theorem isDueTo_of_entry {x : Entry} (hentry : c.entry? a = some x) (hended : c.ended? a = none)
    (hclaim : a.isClaim = x.redelivered) (r : Report) : Report.isDueTo c a r = entryDue x r := by
  cases r <;> simp [Report.isDueTo, entryDue, hentry, hended, hclaim]

theorem isDueTo_of_none (hentry : c.entry? a = none) (hended : c.ended? a = none) (r : Report) :
    Report.isDueTo c a r = nothing r := by
  cases r <;> simp [Report.isDueTo, nothing, hentry, hended]

theorem isMadeBy_published {call : Nat} {o : Outcome} {key payload : String}
    (sent : c.calls[call]? = some (.append key payload)) (subject : String) (success : Bool)
    (r : Report) :
    r.isMadeBy (.published subject success) = Report.isDueTo c (.answered call o) r := by
  have hended : c.ended? (.answered call o) = some (.append key payload) := sent
  cases r <;> simp [Report.isMadeBy, Report.isDueTo, hended, entry?, Command.isAcknowledge,
    Command.isAppend]

theorem isMadeBy_acknowledged {call : Nat} {o : Outcome} {key node : String} {id : EntryId}
    (sent : c.calls[call]? = some (.acknowledge key node id)) (stream : String) (success : Bool)
    (r : Report) :
    r.isMadeBy (.acknowledged stream success) = Report.isDueTo c (.answered call o) r := by
  have hended : c.ended? (.answered call o) = some (.acknowledge key node id) := sent
  cases r <;> simp [Report.isMadeBy, Report.isDueTo, hended, entry?, Command.isAcknowledge,
    Command.isAppend]

end Due

/-- A move of a task counts the entry that it brings, and a loss. -/
theorem Moves.counts (h : TellsLoss c) {m : Queue.Move} (hmove : c.Moves who m e) :
    Counts (Report.isDueTo c (.move who m)) c e.1 := by
  have hquiet (hentry : c.entry? (.move who m) = none) (hcounts : Counts nothing c e.1) :
      Counts (Report.isDueTo c (.move who m)) c e.1 :=
    hcounts.congr (isDueTo_of_none hentry rfl)
  cases hmove with
  | openedOnly | positioned => exact hquiet rfl (counts_attemptSucceeded c who)
  | openedFirst | openedSecond | created => exact hquiet rfl (counts_goOn c who _)
  | openFailed | notCreated | notPositioned | timedOut =>
    exact hquiet rfl (counts_attemptFailed h who _)
  | claimFailed _ _ answer =>
    refine hquiet ?_ (counts_readerFailed h who _)
    rw [entry?_claimAnswered, answer]
    rfl
  | @claimed o _ x _ _ _ answer =>
    have hentry : c.entry? (.move who (.claimAnswered o)) = some x := by
      rw [entry?_claimAnswered, answer]
      rfl
    have hclaim : true = x.redelivered := (Consumer.redelivered_of_claimed answer).symm
    exact .congr (.change (counts_entryCame _ who _ x) rfl rfl) (isDueTo_of_entry hentry rfl hclaim)
  | claimedNothing _ _ answer =>
    refine hquiet ?_ (.of_eq rfl rfl)
    rw [entry?_claimAnswered, answer]
    rfl
  | readFailed _ _ answer =>
    refine hquiet ?_ (counts_readerFailed h who _)
    rw [entry?_readAnswered, answer]
    rfl
  | @read o _ x _ _ answer =>
    have hentry : c.entry? (.move who (.readAnswered o)) = some x := by
      rw [entry?_readAnswered, answer]
      rfl
    have hclaim : false = x.redelivered := (Consumer.redelivered_of_read answer).symm
    exact (counts_entryCame c who _ x).congr (isDueTo_of_entry hentry rfl hclaim)
  | readNothing _ _ answer =>
    refine hquiet ?_ (.of_eq rfl rfl)
    rw [entry?_readAnswered, answer]
    rfl
  | _ => exact hquiet rfl (.of_eq rfl rfl)

/-- A call has learned the outcome of its command, and is counted. -/
theorem Counts.learns (call : Nat) {m : Measurement} (hm : isLoss m = false)
    (hdue : ∀ r, r.isMadeBy m = due r) : Counts due c ((c.without call).measure m) :=
  .change (.measure (c.without call) hm hdue) rfl rfl

theorem Counts.learnsLoss (h : TellsLoss c) (call : Nat) {m : Measurement} (hm : isLoss m = false)
    (hdue : ∀ r, r.isMadeBy m = due r) (f : Failure) :
    Counts due c (((c.without call).measure m).lose f) :=
  (Counts.learns call hm hdue).loses h f rfl rfl rfl

theorem counts_closedAfter (c : Crew) (notices : List Notice) :
    Counts nothing c (c.closedAfter notices) := by
  have hclosed := Counts.enter (s := .closed)
    { c with notices := notices, isConnected := false, recoveries := [] } (by decide)
  exact hclosed.change rfl rfl

/-- A step counts what is due to it, and a loss. -/
theorem counts_act (h : TellsLoss c) {a : Act} (hact : c.act a = some e) :
    Counts (Report.isDueTo c a) c e.1 := by
  have hquiet (hentry : c.entry? a = none) (hended : c.ended? a = none)
      (hcounts : Counts nothing c e.1) : Counts (Report.isDueTo c a) c e.1 :=
    hcounts.congr (isDueTo_of_none hentry hended)
  cases act_eq_some_iff.mp hact with
  | move moves => exact moves.counts h
  | published sent | notPublished sent => exact .learns _ rfl (isMadeBy_published sent _ _)
  | publishLost sent => exact .learnsLoss h _ rfl (isMadeBy_published sent _ _) _
  | acknowledged sent | notAcknowledged sent =>
    exact .learns _ rfl (isMadeBy_acknowledged sent _ _)
  | ackLost sent => exact .learnsLoss h _ rfl (isMadeBy_acknowledged sent _ _) _
  | closed => exact hquiet rfl rfl (counts_closedAfter c _)
  | _ => exact hquiet rfl rfl (.of_eq rfl rfl)

end Steps

/-! ## A whole run -/

/-- What has happened in a run. -/
def passages (c : Crew) (as : List Act) : List (Passage Crew Act) :=
  CatalogReplica.passages (fun c a => (c.act a).map Prod.fst) c as

section Runs

variable {as : List Act}

theorem sound_step (h : Sound c.cells) {a : Act} (hact : (c.act a).map Prod.fst = some c') :
    Sound c'.cells := by
  obtain ⟨e, he, rfl⟩ := Option.map_eq_some_iff.mp hact
  exact (next_act h he).sound

theorem counts_step (h : Sound c.cells) {a : Act} (hact : (c.act a).map Prod.fst = some c') :
    Counts (Report.isDueTo c a) c c' := by
  obtain ⟨e, he, rfl⟩ := Option.map_eq_some_iff.mp hact
  exact counts_act h.tellsLoss he

/-- A new queue has counted nothing. So after a run the counters with these names show how many
steps of a kind there were, if each step of this kind adds one and no other step adds
anything. -/
theorem shows_counted {s : QueueSettings} {q : Queue} (hcreate : Queue.create s = .ok q)
    (hrun : (fresh q).run as = some c) {names : List String} {isOfKind : Passage Crew Act → Bool}
    (hnothing : Measurements.added names [.queueState LinkState.disconnected.name] = 0)
    (hstep : ∀ {c c' : Crew} {a : Act}, Counts (Report.isDueTo c a) c c' →
      c'.measurements.added names =
        c.measurements.added names + if isOfKind ⟨c, a, c'⟩ then 1 else 0) :
    c.measurements.Shows names (((fresh q).passages as).countP isOfKind) := by
  have hadded : c.measurements.added names = (fresh q).measurements.added names +
      ((fresh q).passages as).countP isOfKind := by
    refine foldlM_counts (P := fun c => Sound c.cells)
      (f := fun c => c.measurements.added names) ?_ ?_ (sound_fresh hcreate) hrun
    · exact fun _ _ _ hsound hact => sound_step hsound hact
    · exact fun _ _ _ hsound hact => hstep (counts_step hsound hact)
  have hnew : (fresh q).measurements.added names = 0 := by
    obtain ⟨consumer, limit, -, rfl⟩ := Queue.eq_of_create hcreate
    exact hnothing
  rw [hnew, Nat.zero_add] at hadded
  rw [← hadded]
  exact Measurements.shows_added _ _

/-- Every report is made as often as it was due. -/
theorem shows_run {s : QueueSettings} {q : Queue} (hcreate : Queue.create s = .ok q)
    (hrun : (fresh q).run as = some c) (r : Report) :
    c.measurements.Shows r.names
      (((fresh q).passages as).countP fun p => Report.isDueTo p.before p.act r) := by
  refine shows_counted hcreate hrun ?_ fun hcounts => hcounts.reports r
  cases r <;> rfl

/-- Losses are reported as often as the state became `reconnecting`. -/
theorem shows_losses {s : QueueSettings} {q : Queue} (hcreate : Queue.create s = .ok q)
    (hrun : (fresh q).run as = some c) :
    c.measurements.Shows lossNames
      (((fresh q).passages as).countP fun p => Loses p.before p.after) := by
  refine shows_counted hcreate hrun rfl fun hcounts => ?_
  rw [hcounts.losses]
  simp only [decide_eq_true_eq]

end Runs
end Crew
end CatalogReplica
