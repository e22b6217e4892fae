/-
# CatalogReplica.Proofs.Delivery.Claims -- where a claim starts

A claim looks at a part of the pending entries, and where the next one goes on is kept by the
queue through all its connections. A *search* is a queue with the claim that it sent last
and what the claims that succeeded have said, a record that no step of the queue looks at.
What the service answers is open at every step, and so is the order in which tasks move and
callers call.

Nothing but a claim that succeeds moves the cursor, and a claim that is sent carries the
cursor as it is. So the claim under way always starts where the last success has said.
-/
import CatalogReplica.Proofs.Delivery.Given
import CatalogReplica.Proofs.Queue.ResumePoint
import CatalogReplica.Proofs.Queue.Standing

namespace CatalogReplica

/-! ## What a claim says -/

/-- What a claim that succeeded has said. -/
structure Round where
  /-- Where the next claim starts. -/
  cursor : String
  /-- The entry that it returned, if there was one. -/
  entry : Option Entry

/-- What the outcome of a claim says, if the claim has succeeded: the reply has come, and it
can be read. -/
def Outcome.round? : Outcome → Option Round
  | .answered v =>
    match Claimed.ofReply v with
    | .ok found =>
      some ⟨found.cursor, found.entries.getLast?.map fun e => { e with redelivered := true }⟩
    | .error _ => none
  | .refused _ => none
  | .lost _ => none

theorem Consumer.claimed_of_round {o : Outcome} {r : Round} (h : o.round? = some r)
    (k : Consumer) : k.claimed o = .ok (r.entry, { k with cursor := r.cursor }) := by
  cases o with
  | answered v =>
    cases hread : Claimed.ofReply v with
    | error fault => simp [Outcome.round?, hread] at h
    | ok found =>
      simp only [Outcome.round?, hread, Option.some.injEq] at h
      subst h
      simp [Consumer.claimed, Outcome.reply, hread, bind, Except.bind]
  | refused refusal => cases h
  | lost reason => cases h

theorem Consumer.claimed_of_no_round {o : Outcome} (h : o.round? = none) (k : Consumer) :
    ∃ f, k.claimed o = .error f := by
  cases o with
  | answered v =>
    cases hread : Claimed.ofReply v with
    | error fault => simp [Consumer.claimed, Outcome.reply, hread, bind, Except.bind]
    | ok found => simp [Outcome.round?, hread] at h
  | refused refusal => exact ⟨_, rfl⟩
  | lost reason => exact ⟨_, rfl⟩

namespace Queue

variable {q q' : Queue} {m : Move} {e : Effect}

/-- What a claim has said of which a move reports the outcome. -/
def Move.round? : Move → Option Round
  | .claimAnswered o => o.round?
  | _ => none

/-- The reader waits for the outcome of a claim. -/
def IsClaiming (q : Queue) : Prop := ∃ r, q.reader = some r ∧ r.stage = .claiming

/-- A queue that claims no more than another one, and from the same place. -/
structure Quieter (q q' : Queue) : Prop where
  consumer : q'.consumer = q.consumer
  claiming : q'.IsClaiming → q.IsClaiming

/-- What a move has to do with claims. -/
inductive Probe (q : Queue) (m : Move) (e : Effect) : Prop where
  | aside (round : m.round? = none) (quieter : Quieter q e.1)
      (sent : ∀ c ∈ e.2, c.isClaim = false)
  /-- A claim is sent. -/
  | asks (round : m.round? = none) (consumer : e.1.consumer = q.consumer)
      (sent : e.2 = [q.consumer.claimCommand])
  /-- A claim has succeeded. -/
  | learns (r : Round) (round : m.round? = some r)
      (consumer : e.1.consumer = { q.consumer with cursor := r.cursor })
      (claiming : ¬ e.1.IsClaiming) (sent : ∀ c ∈ e.2, c.isClaim = false)

/-! ## Small changes -/

theorem not_isClaiming (h : q.reader = none) : ¬ q.IsClaiming := by
  rintro ⟨r, hr, -⟩
  cases h.symm.trans hr

theorem not_isClaiming_at {r : Reader} (h : q.reader = some r) (hstage : r.stage ≠ .claiming) :
    ¬ q.IsClaiming := by
  rintro ⟨r', hr, hclaiming⟩
  cases h.symm.trans hr
  exact hstage hclaiming

theorem Quieter.of_reader (hconsumer : q'.consumer = q.consumer) (hreader : q'.reader = q.reader) :
    Quieter q q' := by
  refine ⟨hconsumer, ?_⟩
  rintro ⟨r, hr, hstage⟩
  exact ⟨r, hreader ▸ hr, hstage⟩

theorem Quieter.of_not (hconsumer : q'.consumer = q.consumer) (hnot : ¬ q'.IsClaiming) :
    Quieter q q' := ⟨hconsumer, fun h => absurd h hnot⟩

/-- A move that sends nothing. -/
theorem Probe.silent (hround : m.round? = none) (hquieter : Quieter q q') :
    Probe q m (q', []) := by
  refine .aside hround hquieter ?_
  intro c hc
  cases hc

/-- A move that sends a command of another kind. -/
theorem Probe.sending (hround : m.round? = none) (hquieter : Quieter q q') {c : Command}
    (hc : c.isClaim = false) : Probe q m (q', [c]) := by
  refine .aside hround hquieter ?_
  intro d hd
  rw [List.mem_singleton.mp hd]
  exact hc

theorem consumer_eq (h : q'.standing = q.standing) : q'.consumer = q.consumer :=
  congrArg Standing.consumer h

theorem quieter_goOn (q : Queue) (a : Attempt) : Quieter q (q.goOn a) :=
  .of_reader (consumer_eq (goOn_standing q a)) (goOn_reader q a)

theorem quieter_attemptFailed (q : Queue) (f : Failure) : Quieter q (q.attemptFailed f) :=
  .of_reader (consumer_eq (attemptFailed_standing q f)) (attemptFailed_reader q f)

/-- A reader that was just started has not asked for anything. -/
theorem quieter_attemptSucceeded (q : Queue) : Quieter q q.attemptSucceeded := by
  unfold attemptSucceeded
  dsimp only
  split
  case isTrue => exact .of_reader rfl rfl
  case isFalse =>
    refine .of_not rfl ?_
    cases hwrite : q.settings.writeOnly with
    | true =>
      apply not_isClaiming
      simp [enter, measure, hwrite]
    | false =>
      refine not_isClaiming_at (r := ⟨.between, false⟩) ?_ (by simp)
      simp [enter, measure, hwrite]

theorem quieter_readerFailed (q : Queue) (f : Failure) : Quieter q (q.readerFailed f) := by
  refine .of_not (consumer_eq (readerFailed_standing q f)) (not_isClaiming ?_)
  rw [readerFailed, lose_reader]

theorem not_isClaiming_readerAt (q : Queue) (r : Reader) {stage : ReaderStage}
    (hstage : stage ≠ .claiming) : ¬ (q.readerAt r stage).IsClaiming :=
  not_isClaiming_at (r := { r with stage := stage }) rfl hstage

/-- An entry that came leaves the reader with an event, or without anything. -/
theorem not_isClaiming_entryCame (q : Queue) (r : Reader) (x : Entry) :
    ¬ (q.entryCame r x).IsClaiming := by
  unfold entryCame
  dsimp only
  split
  case h_1 => exact not_isClaiming_at (r := { r with stage := .between }) rfl (by simp)
  case h_2 id change _ =>
    exact not_isClaiming_at (r := { r with stage := .offering ⟨id, change⟩ }) rfl (by simp)

theorem quieter_entryCame (q : Queue) (r : Reader) (x : Entry) : Quieter q (q.entryCame r x) :=
  .of_not (consumer_eq (entryCame_standing q r x)) (not_isClaiming_entryCame q r x)

/-- A reader that is told to stop stays at what it does. -/
theorem quieter_recoveryBegan (q : Queue) : Quieter q { q with
    isConnected := false
    reader := q.reader.map fun r => { r with isStopping := true }
    recovery := some .stoppingReader } := by
  refine ⟨rfl, ?_⟩
  rintro ⟨r, hr, hstage⟩
  obtain ⟨r', hr', rfl⟩ := Option.map_eq_some_iff.mp hr
  exact ⟨r', hr', hstage⟩

/-! ## Moves -/

theorem round?_of_claim_failed {o : Outcome} {f : Failure} {k : Consumer}
    (h : k.claimed o = .error f) : o.round? = none := by
  cases hround : o.round? with
  | none => rfl
  | some r => cases h.symm.trans (Consumer.claimed_of_round hround k)

theorem round?_of_claimed {o : Outcome} {found : Option Entry} {k k' : Consumer}
    (h : k.claimed o = .ok (found, k')) :
    ∃ cursor, o.round? = some ⟨cursor, found⟩ ∧ k' = { k with cursor := cursor } := by
  cases hround : o.round? with
  | none =>
    obtain ⟨f, hf⟩ := Consumer.claimed_of_no_round hround k
    cases hf.symm.trans h
  | some r =>
    cases (Consumer.claimed_of_round hround k).symm.trans h
    exact ⟨r.cursor, rfl, rfl⟩

theorem probe_move (h : q.move m = some e) : Probe q m e := by
  cases move_eq_some_iff.mp h with
  | openedOnly | positioned => exact .silent rfl (quieter_attemptSucceeded q)
  | openedFirst => exact .silent rfl (quieter_goOn q _)
  | openedSecond | created => exact .sending rfl (quieter_goOn q _) rfl
  | openFailed | notCreated | notPositioned | timedOut =>
    exact .silent rfl (quieter_attemptFailed q _)
  | asked => exact .asks rfl rfl rfl
  | claimFailed _ _ answer =>
    exact .silent (round?_of_claim_failed answer) (quieter_readerFailed q _)
  | claimed _ _ answer =>
    obtain ⟨cursor, hround, rfl⟩ := round?_of_claimed answer
    refine .learns _ hround (consumer_eq (entryCame_standing _ _ _))
      (not_isClaiming_entryCame _ _ _) ?_
    intro c hc
    cases hc
  | claimedNothing _ _ answer =>
    obtain ⟨cursor, hround, rfl⟩ := round?_of_claimed answer
    refine .learns _ hround rfl (not_isClaiming_readerAt _ _ (by simp)) ?_
    intro c hc
    rw [List.mem_singleton.mp hc]
    rfl
  | readFailed => exact .silent rfl (quieter_readerFailed q _)
  | read => exact .silent rfl (quieter_entryCame q _ _)
  | readNothing => exact .silent rfl (.of_not rfl (not_isClaiming_readerAt q _ (by simp)))
  | handedOn => exact .silent rfl (.of_not rfl (not_isClaiming_at rfl (by simp)))
  | readerStopped => exact .silent rfl (.of_not rfl (not_isClaiming rfl))
  | recoveryBegan => exact .silent rfl (quieter_recoveryBegan q)
  | took | put | forwarderStopped | scheduled | attemptBegan | recoveryStopped =>
    exact .silent rfl (.of_reader rfl rfl)

/-- A claim that fails moves nothing. -/
theorem consumer_of_claim_failed {o : Outcome} {f : Failure}
    (hfails : q.consumer.claimed o = .error f) (h : q.move (.claimAnswered o) = some e) :
    e.1.consumer = q.consumer := by
  cases probe_move h with
  | aside _ hquieter _ => exact hquieter.consumer
  | asks _ hconsumer _ => exact hconsumer
  | learns r hround _ _ _ =>
    have hround : o.round? = some r := hround
    cases hfails.symm.trans (Consumer.claimed_of_round hround q.consumer)

/-- The outcome of a claim, whatever it is, can be reported while the reader waits for it. -/
theorem isSome_claimAnswered_iff {o : Outcome} :
    (q.claimAnswered o).isSome = true ↔ q.IsClaiming := by
  rw [Option.isSome_iff_exists]
  constructor
  · rintro ⟨e, he⟩
    cases claimAnswered_eq_some_iff.mp he with
    | claimFailed reader stage | claimed reader stage | claimedNothing reader stage =>
      exact ⟨_, reader, stage⟩
  · rintro ⟨r, reader, stage⟩
    cases hanswer : q.consumer.claimed o with
    | error f => exact ⟨_, claimAnswered_eq_some_iff.mpr (.claimFailed reader stage hanswer)⟩
    | ok said =>
      obtain ⟨found, k⟩ := said
      cases found with
      | none => exact ⟨_, claimAnswered_eq_some_iff.mpr (.claimedNothing reader stage hanswer)⟩
      | some x => exact ⟨_, claimAnswered_eq_some_iff.mpr (.claimed reader stage hanswer)⟩

/-! ## Calls -/

/-- No call has to do with claims. -/
theorem quieter_call {c : Call} (h : q.call c = some q') : Quieter q q' := by
  refine .of_reader ?_ (reader_call h)
  cases call_eq_some_iff.mp h with
  | publishLost | ackLost => exact consumer_eq (lose_standing _ _)
  | _ => rfl

end Queue

/-! ## Searches -/

/-- A queue, and what it has learned of its pending entries. -/
structure Search where
  queue : Queue
  /-- The claim that was sent last. -/
  asked : Option Command
  /-- What the claims that succeeded have said, in order. -/
  rounds : List Round

namespace Search

/-- What a task did by a move is entered. -/
def enter (x : Search) (m : Queue.Move) (e : Queue.Effect) : Search where
  queue := e.1
  asked := (e.2.find? Command.isClaim).or x.asked
  rounds := x.rounds ++ m.round?.toList

inductive Act where
  | move (m : Queue.Move)
  | call (c : Queue.Call)

/-- What a claim has said, if an act is that a claim has succeeded. -/
def Act.round? : Act → Option Round
  | .move m => m.round?
  | .call _ => none

/-- The search after an act, if it is possible. -/
def act (x : Search) : Act → Option Search
  | .move m => (x.queue.move m).map (x.enter m)
  | .call c => (x.queue.call c).map fun q => { x with queue := q }

/-- What can be reached from a queue that was just created with some settings. -/
inductive Reachable (s : QueueSettings) : Search → Prop where
  | fresh {q : Queue} (created : Queue.create s = .ok q) : Reachable s ⟨q, none, []⟩
  | act {x y : Search} {a : Act} (reached : Reachable s x) (happens : x.act a = some y) :
      Reachable s y

/-- Where the last claim that succeeded has said that the next one starts; at the beginning if
none has. -/
def start (x : Search) : String := (x.rounds.getLast?.map Round.cursor).getD "0-0"

/-- The claim under way is the one that the queue would send now. -/
def IsCurrent (x : Search) : Prop :=
  x.queue.IsClaiming → x.asked = some x.queue.consumer.claimCommand

variable {s : QueueSettings} {x y : Search}

theorem isCurrent_of_quieter (h : x.IsCurrent) {q : Queue} (hquieter : Queue.Quieter x.queue q) :
    IsCurrent { x with queue := q } := by
  intro hclaiming
  rw [h (hquieter.claiming hclaiming)]
  simp only [hquieter.consumer]

theorem find?_of_silent {cs : List Command} (h : ∀ c ∈ cs, c.isClaim = false) :
    cs.find? Command.isClaim = none := by
  simpa using h

/-- What a claim that succeeded does to a search, and without one nothing. -/
structure Step (x : Search) (round : Option Round) (y : Search) : Prop where
  rounds : y.rounds = x.rounds ++ round.toList
  consumer : y.queue.consumer = { x.queue.consumer with
    cursor := (round.map Round.cursor).getD x.queue.consumer.cursor }

theorem Step.cursor {r : Round} (h : Step x (some r) y) : y.queue.consumer.cursor = r.cursor := by
  rw [h.consumer]
  rfl

theorem step_act {a : Act} (hact : x.act a = some y) (h : x.IsCurrent) :
    Step x a.round? y ∧ y.IsCurrent := by
  cases a with
  | call c =>
    obtain ⟨q, hq, rfl⟩ := Option.map_eq_some_iff.mp hact
    have hquieter := Queue.quieter_call hq
    exact ⟨⟨(List.append_nil _).symm, hquieter.consumer⟩, isCurrent_of_quieter h hquieter⟩
  | move m =>
    obtain ⟨e, he, rfl⟩ := Option.map_eq_some_iff.mp hact
    have hmove : (Act.move m).round? = m.round? := rfl
    cases Queue.probe_move he with
    | aside hround hquieter hsent =>
      rw [hmove, hround]
      refine ⟨⟨by simp [enter, hround], hquieter.consumer⟩, ?_⟩
      intro hclaiming
      simpa [enter, find?_of_silent hsent] using isCurrent_of_quieter h hquieter hclaiming
    | asks hround hconsumer hsent =>
      rw [hmove, hround]
      refine ⟨⟨by simp [enter, hround], hconsumer⟩, ?_⟩
      intro _
      have hclaim : Command.isClaim x.queue.consumer.claimCommand = true := rfl
      simp [enter, hsent, hconsumer, hclaim]
    | learns r hround hconsumer hnot hsent =>
      rw [hmove, hround]
      exact ⟨⟨by simp [enter, hround], hconsumer⟩, fun hclaiming => absurd hclaiming hnot⟩

/-- The invariant of a search. -/
structure Sound (s : QueueSettings) (x : Search) : Prop where
  current : x.IsCurrent
  key : x.queue.consumer.streamKey = s.streamKey
  node : x.queue.consumer.nodeId = s.nodeId
  wait : s.ackWaitSpan = .ok x.queue.consumer.ackWait
  cursor : x.queue.consumer.cursor = x.start

theorem Sound.act (h : Sound s x) {a : Act} (hact : x.act a = some y) : Sound s y := by
  obtain ⟨hstep, hcurrent⟩ := step_act hact h.current
  refine ⟨hcurrent, ?_, ?_, ?_, ?_⟩
  · rw [hstep.consumer]
    exact h.key
  · rw [hstep.consumer]
    exact h.node
  · rw [hstep.consumer]
    exact h.wait
  · rw [hstep.consumer, start, hstep.rounds, h.cursor, start]
    cases a.round? with
    | none => simp
    | some r => simp

/-- A new consumer claims from the beginning. -/
theorem begins_of_ofSettings {k : Consumer} (h : Consumer.ofSettings s = .ok k) :
    s.ackWaitSpan = .ok k.ackWait ∧ k.cursor = "0-0" := by
  obtain ⟨ackWait, blockTimeout, hwait, -, rfl⟩ := Consumer.eq_of_ofSettings h
  exact ⟨hwait, rfl⟩

theorem sound_fresh {q : Queue} (hcreate : Queue.create s = .ok q) : Sound s ⟨q, none, []⟩ := by
  have hconsumer := Journal.consumer_of_create hcreate
  obtain ⟨hkey, hnode⟩ := Journal.names_of_ofSettings hconsumer
  obtain ⟨hwait, hcursor⟩ := begins_of_ofSettings hconsumer
  refine ⟨fun hclaiming => ?_, hkey, hnode, hwait, hcursor⟩
  exact absurd hclaiming (Queue.not_isClaiming (Queue.isNew_of_create hcreate).reader)

theorem Reachable.sound (h : Reachable s x) : Sound s x := by
  induction h with
  | fresh created => exact sound_fresh created
  | act _ happens ih => exact ih.act happens

def run (x : Search) (as : List Act) : Option Search := as.foldlM act x

/-- What acts lead to after a queue was created. -/
def after (s : QueueSettings) (as : List Act) : Option Search :=
  match Queue.create s with
  | .ok q => run ⟨q, none, []⟩ as
  | .error _ => none

theorem Reachable.run (h : Reachable s x) {as : List Act} (hrun : x.run as = some y) :
    Reachable s y := by
  refine foldlM_preserves ?_ h hrun
  exact fun _ _ _ _ hy hact => hy.act hact

theorem reachable_of_after {as : List Act} (h : after s as = some x) : Reachable s x := by
  unfold after at h
  split at h
  case h_1 q hcreate => exact (Reachable.fresh hcreate).run h
  case h_2 => cases h

/-- A claim that is sent carries the cursor. -/
theorem claim_of_move {m : Queue.Move} {e : Queue.Effect} (h : x.queue.move m = some e)
    {c : Command} (hc : c ∈ e.2) (hclaim : c.isClaim = true) :
    c = x.queue.consumer.claimCommand := by
  cases Queue.probe_move h with
  | aside _ _ hsent => cases (hsent c hc).symm.trans hclaim
  | asks _ _ hsent =>
    rw [hsent] at hc
    exact List.mem_singleton.mp hc
  | learns _ _ _ _ hsent => cases (hsent c hc).symm.trans hclaim

end Search
end CatalogReplica
