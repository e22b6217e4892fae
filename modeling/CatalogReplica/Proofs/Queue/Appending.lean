/-
# CatalogReplica.Proofs.Queue.Appending -- one append for each call that publishes

A change gets into the log in two steps. The caller sends an append, unless the queue is
closing or holds no connection; and some time later the append has an outcome. Between
the two anything may happen: the connection may be lost and made again, other callers may
publish, and the queue may be closed. No step but the first of a call appends anything,
and no step changes the key of the stream.

The outcome decides what the caller is told, and nothing else does. What it does to the
queue depends on whether the service has answered. An answer, even a refusal, shows that
the connection is in order. Only where none came the connection is lost, which is news
unless the queue is closing or the loss was reported before.
-/
import CatalogReplica.Proofs.Json.Strings
import CatalogReplica.Proofs.Queue.OneRecovery
import CatalogReplica.Proofs.Queue.ResumePoint
import CatalogReplica.Proofs.Queue.Standing
import CatalogReplica.Proofs.Wire.Entries

namespace CatalogReplica

/-! ## Answers that stand for a text -/

/-- A reply stands for a text: it is a text itself, in one of the forms in which the
service sends texts, or the digits of a number. Octets have to be the encoding of it. -/
inductive Reply.StandsFor : Reply → String → Prop where
  | bulk (text : String) : StandsFor (.bulk (Octets.ofString text)) text
  | simple (text : String) : StandsFor (.simple text) text
  | verbatim (text : String) : StandsFor (.verbatim text) text
  | okay : StandsFor .okay "OK"
  | int (n : Int) : StandsFor (.int n) (String.ofList (signedDecimal n))

theorem Reply.textLike?_eq_some_iff {reply : Reply} {text : String} :
    reply.textLike? = some text ↔ reply.StandsFor text := by
  constructor
  · intro h
    unfold textLike? at h
    split at h
    case h_1 bytes =>
      rw [Octets.text?_eq_some] at h
      rw [h]
      exact .bulk text
    case h_6 => cases h
    -- every other reply that stands for a text stands for this one by itself
    all_goals
      cases h
      constructor
  · intro h
    cases h with
    | bulk => exact Octets.text?_eq_some.mpr rfl
    | simple | verbatim | okay | int => rfl

namespace Outcome

variable {α : Type} {operation : String} {read : Reply → Option α} {o : Outcome}

theorem value_eq_ok_iff {a : α} :
    o.value operation read = .ok a ↔ ∃ reply, o = .answered reply ∧ read reply = some a := by
  cases o with
  | answered reply =>
    cases hread : read reply with
    | some b => simp [value, Outcome.reply, bind, Except.bind, hread]
    | none => simp [value, Outcome.reply, bind, Except.bind, hread]
  | refused refusal =>
    constructor
    · intro h
      cases h
    · rintro ⟨_, ⟨⟩, -⟩
  | lost reason =>
    constructor
    · intro h
      cases h
    · rintro ⟨_, ⟨⟩, -⟩

/-- Where the service has answered, a failure does not speak of the connection. -/
theorem not_isConnectionLost_of_value {f : Failure} (h : o.value operation read = .error f)
    (hanswer : ∀ reason, o ≠ .lost reason) : f.isConnectionLost = false := by
  cases o with
  | answered reply =>
    cases hread : read reply with
    | some a => simp [value, Outcome.reply, bind, Except.bind, hread] at h
    | none =>
      simp only [value, Outcome.reply, bind, Except.bind, hread, Except.error.injEq] at h
      rw [← h]
      rfl
  | refused refusal =>
    cases h
    rfl
  | lost reason => exact absurd rfl (hanswer reason)

end Outcome

/-! ## What the caller is told -/

namespace Queue

variable {q : Queue} {o : Outcome}

theorem appendedId_eq_ok_iff {text : String} {id : EntryId} :
    appendedId text = .ok id ↔ EntryId.read? text = some id := by
  unfold appendedId
  cases EntryId.read? text with
  | some found => simp
  | none => simp

/-- A change is published exactly if the answer to its append stands for the text of an
id. -/
theorem publishAnswered_eq_ok_iff {id : EntryId} : (q.publishAnswered o).1 = .ok id ↔
    ∃ reply text, o = .answered reply ∧ reply.StandsFor text ∧ EntryId.read? text = some id := by
  unfold publishAnswered
  cases htext : o.value "XADD" Reply.textLike? with
  | ok text =>
    obtain ⟨reply, rfl, hreply⟩ := Outcome.value_eq_ok_iff.mp htext
    refine appendedId_eq_ok_iff.trans ⟨fun hid => ?_, ?_⟩
    · exact ⟨reply, text, rfl, Reply.textLike?_eq_some_iff.mp hreply, hid⟩
    · rintro ⟨_, text', ⟨⟩, hstands, hid⟩
      rw [← Reply.textLike?_eq_some_iff, hreply] at hstands
      cases hstands
      exact hid
  | error f =>
    constructor
    · intro h
      cases h
    · rintro ⟨reply, text, rfl, hstands, -⟩
      have hreply := Reply.textLike?_eq_some_iff.mpr hstands
      cases htext.symm.trans (Outcome.value_eq_ok_iff.mpr ⟨reply, rfl, hreply⟩)

end Queue

namespace Crew

variable {c : Crew}

/-! ## What appends -/

/-- What an act keeps, and that it appends nothing unless it publishes. -/
theorem apart_act {a : Act} {e : Effect} (hact : c.act a = some e) :
    Standing.Keeps c.standing e.1.standing ∧
      ∀ key text, .append key text ∈ e.2 → ∃ change now, a = .publish change now := by
  obtain ⟨hkeeps, hsends⟩ := sends_act hact
  refine ⟨hkeeps, fun key text hmem => ?_⟩
  cases hsends _ hmem with
  | inl hown => nomatch hown
  | inr happended => exact happended.1

/-- The key of the stream is that of the settings, whatever has happened. -/
theorem Reachable.streamKey (h : Reachable c) :
    c.consumer.streamKey = c.settings.streamKey :=
  (Journal.names_of_ofSettings h.consumer).1

/-! ## The outcome of an append -/

/-- What has become of a call that published, once its append has had an outcome: what
the caller is told, and the crew then. The first crew is the one that the call finds. -/
structure Returned (c : Crew) (o : Outcome) (result : Except Failure EntryId) (c' : Crew) :
    Prop where
  /-- The change is published exactly if the answer names its place in the log. -/
  published : ∀ id, result = .ok id ↔
    ∃ reply text, o = .answered reply ∧ reply.StandsFor text ∧ EntryId.read? text = some id
  /-- An answer, whatever it says, is measured and changes nothing. -/
  answered : (∀ reason, o ≠ .lost reason) →
    ∃ success, c' = c.measure (.published c.settings.subject success)
  refused : ∀ refusal, o = .refused refusal → result = .error (.service "XADD" (.refused refusal))
  lost : ∀ reason, o = .lost reason → result = .error (.service "XADD" (.transport reason))
  /-- A loss is no news to a queue that is closing, nor to one that reconnects already. -/
  unchanged : ∀ reason, o = .lost reason → c.isClosing = true ∨ c.state = .reconnecting →
    c' = c.measure (.published c.settings.subject false)
  /-- Any other queue reconnects when the caller learns of the loss. -/
  reconnecting : ∀ reason, o = .lost reason → c.isClosing = false → c.state ≠ .reconnecting →
    c' = { c with
      state := .reconnecting
      isLossReported := true
      recoveries := [.started]
      measurements := c.measurements ++ [.published c.settings.subject false,
        .connectionLost "connection", .queueState "Reconnecting"]
      notices := c.notices ++ [.connectionLost] }

/-- As long as it is open, a queue reconnects exactly while a loss is reported. -/
theorem isLossReported_iff (h : Sound c.cells) (hopen : c.isClosing = false) :
    c.isLossReported = true ↔ c.state = .reconnecting := by
  cases h.phase with
  | starting _ state _ unreported =>
    exact iff_of_false (Bool.eq_false_iff.mp unreported) (fun h => nomatch state.symm.trans h)
  | linked _ state _ unreported =>
    exact iff_of_false (Bool.eq_false_iff.mp unreported) (fun h => nomatch state.symm.trans h)
  | recovering r recovering => exact iff_of_true recovering.reported recovering.state
  | stopped _ state reported => exact iff_of_true reported state
  | closing _ _ closing => exact absurd closing (Bool.eq_false_iff.mp hopen)

theorem recoveries_of_open (h : Sound c.cells) (hopen : c.isClosing = false)
    (hstate : c.state ≠ .reconnecting) : c.recoveries = [] := by
  cases h.phase with
  | starting _ _ _ _ unrecovered => exact unrecovered
  | linked _ _ _ _ unrecovered => exact unrecovered
  | recovering r recovering => exact absurd recovering.state hstate
  | stopped _ _ _ unrecovered => exact unrecovered
  | closing _ _ closing => exact absurd closing (Bool.eq_false_iff.mp hopen)

theorem publishAnswered_of_answer {o : Outcome} (hanswer : ∀ reason, o ≠ .lost reason) :
    ∃ success, c.publishAnswered o = c.measure (.published c.settings.subject success) := by
  unfold publishAnswered
  cases hvalue : o.value "XADD" Reply.textLike? with
  | ok text => exact ⟨true, rfl⟩
  | error f =>
    have hkept : f.isConnectionLost ≠ true :=
      Bool.eq_false_iff.mp (Outcome.not_isConnectionLost_of_value hvalue hanswer)
    exact ⟨false, if_neg hkept⟩

theorem publishAnswered_lost (c : Crew) (reason : String) :
    c.publishAnswered (.lost reason) = (c.measure (.published c.settings.subject false)).lose
      (.service "XADD" (.transport reason)) := rfl

theorem returned_publishAnswered (h : Sound c.cells) (o : Outcome) :
    Returned c o (c.queue.publishAnswered o).1 (c.publishAnswered o) where
  published _ := Queue.publishAnswered_eq_ok_iff
  answered := publishAnswered_of_answer
  refused := by
    rintro refusal rfl
    rfl
  lost := by
    rintro reason rfl
    rfl
  unchanged := by
    rintro reason rfl hold
    -- A closing queue does not recover, and one that is reconnecting is recovering already.
    have hreported : (c.isClosing || c.isLossReported) = true := by
      cases hopen : c.isClosing with
      | true => rfl
      | false =>
        rw [hopen] at hold
        exact (isLossReported_iff h hopen).mpr (hold.resolve_left Bool.false_ne_true)
    rw [publishAnswered_lost]
    exact if_pos hreported
  reconnecting := by
    rintro reason rfl hopen hstate
    have hunreported : c.isLossReported = false :=
      Bool.eq_false_iff.mpr (mt (isLossReported_iff h hopen).mp hstate)
    have hnews : ¬ (c.isClosing || c.isLossReported) = true := by
      rw [hopen, hunreported]
      exact Bool.false_ne_true
    have hunrecovered := recoveries_of_open h hopen hstate
    rw [publishAnswered_lost]
    refine (if_neg hnews).trans ?_
    simp [measure, notify, enter, hunrecovered, Queue.lossLabel, Failure.isConnectionLost,
      LinkState.name]

theorem queue_lose_of_closing (hclosing : c.isClosing = true) (f : Failure) :
    (c.lose f).queue = c.queue.lose f := by
  have hqueue : c.queue.isClosing = true := hclosing
  simp [lose, Queue.lose, hclosing, hqueue]

/-- The queue that nobody has let go of does what its crew does, also while it is closing. -/
theorem shown_publishAnswered (h : Sound c.cells) (howned : c.isReleased = false) (o : Outcome) :
    (c.publishAnswered o).queue = (c.queue.publishAnswered o).2 := by
  have hlose (m : Measurement) (f : Failure) :
      ((c.measure m).lose f).queue = (c.queue.measure m).lose f := by
    cases hopen : c.isClosing with
    | false =>
      exact queue_lose (c := c.measure m)
        (h.plain (isEnding_eq_false_iff.mpr ⟨hopen, howned⟩)).reported f
    | true => exact queue_lose_of_closing (c := c.measure m) hopen f
  unfold publishAnswered Queue.publishAnswered
  cases o.value "XADD" Reply.textLike? with
  | ok text => rfl
  | error f =>
    dsimp only
    split
    · exact hlose _ f
    · rfl

/-! ## The whole call -/

/-- The append that publishes a change. -/
theorem publish_of_connected (hopen : c.isClosing = false) (hconnected : c.isConnected = true)
    (change : Change) (now : Timestamp) : c.queue.publish change now =
      .ok (.append c.consumer.streamKey (change.publishedAt now).json) := by
  have hclosing : ¬ c.queue.isClosing = true := Bool.eq_false_iff.mp hopen
  have hlink : c.queue.isConnected = true := hconnected
  unfold Queue.publish
  rw [if_neg hclosing, if_pos hlink]
  rfl

/-- Whatever has happened to a queue before, and whatever it holds: once it was told to
close, it refuses to publish for good, and without a connection it refuses to as well,
and in both cases nothing is sent and nothing changes. Otherwise one append is sent, which
leaves the id to the service and holds as its only field the text of the change with its
timestamp alone replaced; this text is decoded into what that change settles to, which is
the change itself exactly if every leap second in its record and its new timestamp ends a
minute. Nothing is appended but by a call that publishes. When the append has an outcome,
nothing more is sent. What the caller is told, and what becomes of the queue, is as
`Returned` says. -/
theorem publish_appends_once (h : Reachable c) :
    (∀ (change : Change) (now : Timestamp),
      (c.isClosing = true → c.queue.publish change now = .error .queueClosed ∧
        c.act (.publish change now) = none ∧
        ∀ as c', c.run as = some c' → c'.isClosing = true) ∧
      (c.isClosing = false → c.isConnected = false →
        c.queue.publish change now = .error .noConnection ∧
        c.act (.publish change now) = none) ∧
      (c.isClosing = false → c.isConnected = true → ∃ text,
        let key := c.settings.clusterId ++ ":" ++ c.settings.subject
        let command := Command.append key text
        c.queue.publish change now = .ok command ∧
        command.words = ["XADD", key, "*", "payload", text] ∧
        Change.ofOctets (Octets.ofString text) =
          .ok ({ change with timestamp := now } : Change).settled ∧
        (({ change with timestamp := now } : Change).settled = { change with timestamp := now } ↔
          (∀ r ∈ change.record, r.LeapsEndMinutes) ∧ now.LeapEndsMinute) ∧
        (c.isReleased = false → c.act (.publish change now) =
          some ({ c with calls := c.calls ++ [command] }, [command])))) ∧
    (∀ a e, c.act a = some e →
      ∀ key text, .append key text ∈ e.2 → ∃ change now, a = .publish change now) ∧
    (∀ call key text o, c.calls[call]? = some (.append key text) →
      ∃ c', c.act (.answered call o) = some (c', []) ∧
        Returned { c with calls := c.calls.eraseIdx call } o (c.queue.publishAnswered o).1 c' ∧
        (c.isReleased = false → c'.queue = (c.queue.publishAnswered o).2)) := by
  have hsound := h.sound
  refine ⟨fun change now => ⟨?_, ?_, ?_⟩, fun a e hact => (apart_act hact).2, ?_⟩
  · intro hclosing
    have hrefused : c.queue.publish change now = .error .queueClosed := if_pos hclosing
    refine ⟨hrefused, ?_, fun as c' hrun => (keeps_run hrun).closing hclosing⟩
    simp only [act, publish, hrefused]
  · intro hopen hunlinked
    have hclosing : ¬ c.queue.isClosing = true := Bool.eq_false_iff.mp hopen
    have hlink : ¬ c.queue.isConnected = true := Bool.eq_false_iff.mp hunlinked
    have hrefused : c.queue.publish change now = .error .noConnection :=
      (if_neg hclosing).trans (if_neg hlink)
    refine ⟨hrefused, ?_⟩
    simp only [act, publish, hrefused]
  · intro hopen hconnected
    have hcommand := publish_of_connected hopen hconnected change now
    rw [h.streamKey] at hcommand
    refine ⟨(change.publishedAt now).json, hcommand, rfl, Change.ofOctets_json _, ?_, ?_⟩
    · exact Change.settled_eq_iff.trans ⟨fun h => ⟨h.record, h.timestamp⟩, fun h => ⟨h.1, h.2⟩⟩
    · intro howned
      have hcreated : c.firstAttempt = none :=
        hsound.phase.created_of_busy (.inr (.inr (.inl hconnected)))
      exact act_eq_some_iff.mpr (.publishing hcommand (isOwned_iff.mpr ⟨hcreated, howned⟩))
  · intro call key text o hcall
    -- A call in flight shows that the queue is past its first attempt to connect, which is
    -- what keeps the crew sound once the call is taken off.
    have hcreated : c.firstAttempt = none :=
      hsound.phase.created_of_busy (.inr (.inl (List.ne_nil_of_mem (List.mem_of_getElem? hcall))))
    have hrest : Sound ({ c with calls := c.calls.eraseIdx call } : Crew).cells :=
      hsound.withCalls hcreated _
    refine ⟨({ c with calls := c.calls.eraseIdx call } : Crew).publishAnswered o, ?_, ?_, ?_⟩
    · simp only [act, answered, hcall]
    · exact returned_publishAnswered hrest o
    · exact fun howned => shown_publishAnswered hrest howned o

/-- A connected queue publishes a record that was last changed in a leap second four minutes
too early, and its append is decoded into a record that was last changed a moment later. -/
theorem published_early_leap_second_drifts :
    let oak : Record := { Record.ofId "oak" with updatedAt := Change.earlyLeapSecond }
    let moment : Timestamp :=
      ⟨.epoch, ⟨23, 56, 5, 333000000, by decide, by decide, by decide, by decide⟩⟩
    ∃ c, after { nodeId := "node" } connecting = some c ∧ c.isConnected = true ∧
      ∃ text, c.queue.publish (.upsert oak) .epoch =
          .ok (.append "catalogs-cluster:catalogs" text) ∧
        Change.ofOctets (Octets.ofString text) = .ok (.upsert { oak with updatedAt := moment }) ∧
        Change.upsert { oak with updatedAt := moment } ≠ .upsert oak := by
  intro oak moment
  have hrun : (after { nodeId := "node" } connecting).map (fun c =>
      (c.isConnected, c.isClosing, c.consumer.streamKey)) =
      some (true, false, "catalogs-cluster:catalogs") := by
    decide +kernel
  obtain ⟨c, hc, hcells⟩ := Option.map_eq_some_iff.mp hrun
  simp only [Prod.mk.injEq] at hcells
  obtain ⟨hconnected, hopen, hkey⟩ := hcells
  have hcommand := publish_of_connected hopen hconnected (.upsert oak) .epoch
  rw [hkey] at hcommand
  exact ⟨c, hc, hconnected, _, hcommand, by decide +kernel, by decide⟩

/-- A change is being published, and its append has been sent. -/
def publishing : List Act := connecting ++ [.publish (.delete "oak") .epoch]

/-- While one change is being published, another one can be; and of the first, the caller
learns that it is the seventh entry, or that the connection is lost. -/
theorem publishing_appends_once :
    ∃ c, after { nodeId := "node" } publishing = some c ∧
      (∃ text, c.queue.publish (.delete "elm") .epoch =
          .ok (.append "catalogs-cluster:catalogs" text) ∧
        Change.ofOctets (Octets.ofString text) = .ok (.delete "elm")) ∧
      (∃ c', c.act (.answered 0 (.answered (.int 7))) = some (c', []) ∧
        (c.queue.publishAnswered (.answered (.int 7))).1 =
          .ok ⟨7, 0, by decide, by decide⟩ ∧ c'.state = .connected) ∧
      (∃ c', c.act (.answered 0 (.lost "connection closed")) = some (c', []) ∧
        (c.queue.publishAnswered (.lost "connection closed")).1 =
          .error (.service "XADD" (.transport "connection closed")) ∧
        c'.state = .reconnecting ∧ c'.recoveries = [.started]) := by
  have hrun : (after { nodeId := "node" } publishing).map (fun c =>
      (c.state, c.isConnected, c.isClosing, c.settings, c.calls)) =
      some (.connected, true, false, { nodeId := "node" },
        [.append "catalogs-cluster:catalogs" (Change.delete "oak").json]) := by
    decide +kernel
  obtain ⟨c, hc, hcells⟩ := Option.map_eq_some_iff.mp hrun
  simp only [Prod.mk.injEq] at hcells
  obtain ⟨hstate, hconnected, hopen, hsettings, hcalls⟩ := hcells
  obtain ⟨hpublish, -, hanswered⟩ := publish_appends_once (reachable_of_after hc)
  have hcall : c.calls[0]? = some (.append "catalogs-cluster:catalogs"
      (Change.delete "oak").json) := by rw [hcalls]; rfl
  refine ⟨c, hc, ?_, ?_, ?_⟩
  · obtain ⟨text, hcommand, -, htext, hsame, -⟩ :=
      (hpublish (.delete "elm") .epoch).2.2 hopen hconnected
    have hends : (∀ r ∈ (Change.delete "elm").record, r.LeapsEndMinutes) ∧
        Timestamp.epoch.LeapEndsMinute := by
      refine ⟨?_, by decide⟩
      rintro r ⟨⟩
      exact ⟨by decide, by decide⟩
    rw [hsettings] at hcommand
    rw [hsame.mpr hends] at htext
    exact ⟨text, hcommand, htext⟩
  · obtain ⟨c', hact, hreturned, -⟩ := hanswered 0 _ _ (.answered (.int 7)) hcall
    obtain ⟨success, hc'⟩ := hreturned.answered nofun
    refine ⟨c', hact, ?_, hc' ▸ hstate⟩
    exact (hreturned.published _).mpr ⟨_, "7", rfl, .int 7, by decide +kernel⟩
  · obtain ⟨c', hact, hreturned, -⟩ := hanswered 0 _ _ (.lost "connection closed") hcall
    have hopened : c.state ≠ .reconnecting := by
      rw [hstate]
      decide
    have hc' := hreturned.reconnecting _ rfl hopen hopened
    refine ⟨c', hact, hreturned.lost _ rfl, ?_, ?_⟩
    · rw [hc']
    · rw [hc']

end Crew
end CatalogReplica
