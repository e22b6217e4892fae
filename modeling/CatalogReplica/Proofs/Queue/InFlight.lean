/-
# CatalogReplica.Proofs.Queue.InFlight -- no more than four events are under way

A queue reads ahead of its callers, but not far. An event that was read and neither
received nor dropped is at one of four places, each of which has room for one:

    the reader --> the input channel --> the forwarder --> the output channel

To show that nothing is anywhere else, a *ledger* enters what tasks drop when they stop.
Whatever was read is then received, at one of the places, or dropped, and only one of
these. And nothing is asked of the service as long as the reader has an event that the
input channel has no room for, so a caller that does not call holds up the reading.
-/
import CatalogReplica.Proofs.Queue.ResumePoint

namespace CatalogReplica.Crew

namespace Pipe

variable {p p' : Pipe} {isEnding : Bool} {got : Option Event} {dropped : List Numbered}

/-- What was read is on the track or was dropped, and a step keeps it so. -/
theorem Flow.accounts (h : Flow isEnding got dropped p p') {before : List Numbered}
    (hbefore : (p.track ++ before).Perm p.numbered) :
    (p'.track ++ (before ++ dropped)).Perm p'.numbered := by
  refine List.perm_iff_count.mpr fun n => ?_
  have hcount := List.perm_iff_count.mp hbefore n
  rw [List.count_append] at hcount
  simp only [List.count_append]
  cases h with
  | keeps _ readings track _ _ _ kept =>
    rw [track, kept, numbered_of_readings readings, List.count_nil]
    omega
  | reads k e _ _ _ readings track _ _ kept =>
    rw [track, kept, numbered_concat readings, List.count_append, List.count_append, List.count_nil]
    omega
  | stops k held _ _ _ readings track _ _ lost =>
    rw [track, List.count_append] at hcount
    rw [lost, numbered_of_readings readings]
    omega
  | ends _ _ _ readings _ _ lost =>
    have hlost := List.perm_iff_count.mp lost n
    rw [List.count_append] at hlost
    rw [numbered_of_readings readings]
    omega

/-- A reader that holds an event goes on to hold it, unless the event gets into the input
channel or the reader is stopped. -/
theorem Flow.holds (h : Flow isEnding got dropped p p') {k : Nat} {n : Numbered}
    (hholds : p.offers = [(k, some n)]) :
    (k, some n) ∈ p'.offers ∨ (p.input = none ∧ p'.input = some n) ∨
      p'.stopped = p.stopped ++ [k] := by
  have hmem : (k, some n) ∈ p.offers := by simp [hholds]
  cases h with
  | keeps _ _ _ _ _ _ _ held =>
    rcases held (k, some n) hmem rfl with hheld | haccepted
    · exact .inl hheld
    · exact .inr (.inl haccepted)
  | reads _ _ _ reader =>
    rw [hholds] at reader
    cases reader
  | stops _ _ _ reader _ _ _ stopped =>
    rw [hholds] at reader
    cases reader
    exact .inr (.inr stopped)
  | ends _ _ offers =>
    rw [offers]
    exact .inl hmem

theorem numbered_nodup (p : Pipe) : p.numbered.Nodup := by
  have hnumbers : (p.numbered.map Numbered.number).Nodup := by
    rw [numbers_eq_range]
    exact List.nodup_range
  exact List.Pairwise.of_map Numbered.number (fun _ _ hne heq => hne (congrArg _ heq)) hnumbers

end Pipe

variable {c : Crew} {who : Nat}

/-! ## Asking the service -/

theorem offers_of_asking (h : Sound c.cells) {t : ReadingTask} (ht : c.readers[who]? = some t)
    (hempty : t.stage.held? = none) : c.pipe.offers = [(t.number, none)] := by
  simp [pipe, (h.only_reader ht).2, ReadingTask.offer, hempty]

/-- A task that asks for an entry is a reader that holds no event. What an attempt to connect
sends prepares the group. -/
theorem Moves.offers_of_fetch (h : Sound c.cells) {m : Queue.Move} {e : Effect}
    (hmove : c.Moves who m e) {command : Command} (hsent : command ∈ e.2)
    (hfetch : command.isFetch = true) : ∃ k, c.pipe.offers = [(k, none)] := by
  cases hmove with
  | asked reader stage => exact ⟨_, offers_of_asking h reader (by rw [stage]; rfl)⟩
  | claimedNothing reader stage => exact ⟨_, offers_of_asking h reader (held?_of_claiming stage)⟩
  | openedSecond | created =>
    cases List.mem_singleton.mp hsent
    cases hfetch
  | _ => cases hsent

theorem isFetch_of_publish {q : Queue} {change : Change} {now : Timestamp} {command : Command}
    (h : q.publish change now = .ok command) : command.isFetch = false := by
  rw [Queue.publish_eq_ok h]
  rfl

/-- Whoever asks the service for an entry is a reader that holds no event. -/
theorem offers_of_fetch (h : Sound c.cells) {a : Act} {e : Effect} (hact : c.act a = some e)
    {command : Command} (hsent : command ∈ e.2) (hfetch : command.isFetch = true) :
    ∃ k, c.pipe.offers = [(k, none)] := by
  cases act_eq_some_iff.mp hact with
  | move moves => exact moves.offers_of_fetch h hsent hfetch
  -- callers append and acknowledge
  | publishing allowed =>
    cases List.mem_singleton.mp hsent
    rw [isFetch_of_publish allowed] at hfetch
    cases hfetch
  | acknowledging =>
    cases List.mem_singleton.mp hsent
    cases hfetch
  | _ => cases hsent

/-! ## Holding an event -/

/-- An act by which an event gets into the input channel, or its reader is stopped. -/
def LetsGo (k : Nat) (n : Numbered) (c c' : Crew) : Prop :=
  (c.input = none ∧ c'.input = some n) ∨ c'.stopped = c.stopped ++ [k]

theorem holding_act (h : Sound c.cells) {a : Act} {e : Effect} (hact : c.act a = some e)
    {k : Nat} {n : Numbered} (hholds : c.pipe.offers = [(k, some n)]) :
    e.1.pipe.offers = [(k, some n)] ∨ LetsGo k n c e.1 := by
  rcases (flow_act h hact).holds hholds with hheld | haccepted | hstopped
  · -- a crew has one reader at most
    have hsingle : (e.1.readers.map ReadingTask.tag).length ≤ 1 := (next_act h hact).sound.single
    have hone : e.1.pipe.offers.length ≤ 1 := by simpa [pipe] using hsingle
    obtain ⟨o, ho⟩ := List.length_eq_one_iff.mp
      (Nat.le_antisymm hone (List.length_pos_of_mem hheld))
    rw [ho] at hheld ⊢
    rw [← List.mem_singleton.mp hheld]
    exact .inl rfl
  · exact .inr (.inl haccepted)
  · exact .inr (.inr hstopped)

/-- A reader holds its event until it gets into the input channel or the reader is
stopped. -/
theorem holding_run (h : Sound c.cells) {k : Nat} {n : Numbered}
    (hholds : c.pipe.offers = [(k, some n)]) {as : List Act} {c' : Crew}
    (hrun : c.run as = some c') :
    c'.pipe.offers = [(k, some n)] ∨ ∃ xs y ys d e, as = xs ++ y :: ys ∧
      c.run xs = some d ∧ d.act y = some e ∧ LetsGo k n d e.1 := by
  induction as generalizing c with
  | nil =>
    cases hrun
    exact .inl hholds
  | cons a as ih =>
    obtain ⟨d, hd, hrest⟩ := Option.bind_eq_some_iff.mp hrun
    obtain ⟨e, he, rfl⟩ := Option.map_eq_some_iff.mp hd
    rcases holding_act h he hholds with hheld | hgone
    · rcases ih (next_act h he).sound hheld hrest with hlast | ⟨xs, y, ys, d, f, rfl, hxs, hy, hgo⟩
      · exact .inl hlast
      · refine .inr ⟨a :: xs, y, ys, d, f, rfl, ?_, hy, hgo⟩
        show (Option.map Prod.fst (c.act a)).bind _ = _
        rw [he]
        exact hxs
    · exact .inr ⟨[], a, as, c, e, rfl, rfl, he, hgone⟩

/-- With the event that it gets, a reader sends nothing. -/
theorem silent_of_gets {a : Act} {e : Effect} (hact : c.act a = some e) {event : Event}
    (hgets : c.gets a = some event) : e.2 = [] := by
  cases act_eq_some_iff.mp hact with
  | move moves =>
    cases moves with
    | asked | openedSecond | created => cases hgets
    | claimedNothing _ _ answer =>
      simp only [gets, answer] at hgets
      cases hgets
    | _ => rfl
  | publishing | acknowledging => cases hgets
  | _ => rfl

/-- The reader that gets an event holds it. -/
theorem holding_of_gets (h : Sound c.cells) {a : Act} {e : Effect} (hact : c.act a = some e)
    {event : Event} (hgets : c.gets a = some event) :
    ∃ k, e.1.pipe.offers = [(k, some ⟨c.readings.length, event⟩)] ∧
      e.1.pipe.numbered = c.pipe.numbered ++ [⟨c.readings.length, event⟩] := by
  cases flow_act h hact with
  | reads k got read _ offers readings =>
    cases hgets.symm.trans read
    exact ⟨k, offers, Pipe.numbered_concat readings⟩
  | keeps unread => cases hgets.symm.trans unread
  | stops _ _ unread => cases hgets.symm.trans unread
  | ends _ unread => cases hgets.symm.trans unread

/-! ## The ledger -/

/-- A crew, and what its tasks have dropped so far. -/
structure Ledger where
  crew : Crew
  dropped : List Numbered

namespace Ledger

/-- The ledger after an act, if it is possible. -/
def act (l : Ledger) (a : Act) : Option Ledger :=
  (l.crew.act a).map fun e => ⟨e.1, l.dropped ++ l.crew.discards a⟩

/-- Acts one after another. -/
def run (l : Ledger) (as : List Act) : Option Ledger := as.foldlM act l

/-- What can be reached from a queue that was just created with any settings. -/
inductive Reachable : Ledger → Prop where
  | fresh {s : QueueSettings} {q : Queue} (created : Queue.create s = .ok q) :
      Reachable ⟨.fresh q, []⟩
  | act {l l' : Ledger} {a : Act} (reached : Reachable l) (happens : l.act a = some l') :
      Reachable l'

/-- The events that were read, and neither received nor dropped. -/
def outstanding (l : Ledger) : List Numbered :=
  l.crew.pipe.numbered.filter fun n =>
    n ∉ l.crew.received.map Reception.item ∧ n ∉ l.dropped

variable {l : Ledger}

theorem Reachable.crew (h : l.Reachable) : l.crew.Reachable := by
  induction h with
  | fresh created => exact .fresh created
  | act _ happens ih =>
    obtain ⟨e, he, rfl⟩ := Option.map_eq_some_iff.mp happens
    exact ih.act he

theorem Reachable.run (h : l.Reachable) {as : List Act} {l' : Ledger}
    (hrun : l.run as = some l') : l'.Reachable := by
  refine foldlM_preserves ?_ h hrun
  exact fun _ _ _ _ hd hact => hd.act hact

/-- What was read was received, is under way, or was dropped. -/
theorem Reachable.accounted (h : l.Reachable) :
    (l.crew.pipe.track ++ l.dropped).Perm l.crew.pipe.numbered := by
  induction h with
  | fresh created =>
    obtain ⟨consumer, limit, -, rfl⟩ := Queue.eq_of_create created
    rename_i s
    cases s.writeOnly <;> exact List.Perm.refl _
  | act reached happens ih =>
    obtain ⟨e, he, rfl⟩ := Option.map_eq_some_iff.mp happens
    exact (flow_act reached.crew.sound he).accounts ih

/-- What is outstanding is under way: nothing that is under way was received or dropped,
and whatever else was read was. -/
theorem Reachable.outstanding_perm (h : l.Reachable) :
    l.outstanding.Perm l.crew.pipe.underWay := by
  have haccounted := h.accounted
  have hnodup := haccounted.nodup_iff.mpr (Pipe.numbered_nodup _)
  rw [Pipe.track, List.append_assoc] at haccounted hnodup
  obtain ⟨-, hrest, hreceived⟩ := List.nodup_append.mp hnodup
  obtain ⟨-, -, hdropped⟩ := List.nodup_append.mp hrest
  let isOutstanding : Numbered → Bool := fun n =>
    n ∉ l.crew.received.map Reception.item ∧ n ∉ l.dropped
  have hnone : (l.crew.pipe.received.map Reception.item).filter isOutstanding = [] :=
    List.filter_eq_nil_iff.mpr fun n hn hout => (of_decide_eq_true hout).1 hn
  have hnone' : l.dropped.filter isOutstanding = [] :=
    List.filter_eq_nil_iff.mpr fun n hn hout => (of_decide_eq_true hout).2 hn
  have hall : l.crew.pipe.underWay.filter isOutstanding = l.crew.pipe.underWay :=
    List.filter_eq_self.mpr fun n hn => decide_eq_true
      ⟨fun hmem => hreceived n hmem n (List.mem_append_left _ hn) rfl,
        fun hmem => hdropped n hn n hmem rfl⟩
  have hfilter := haccounted.symm.filter isOutstanding
  rw [List.filter_append, List.filter_append, hnone, hnone', hall, List.append_nil] at hfilter
  exact hfilter

/-- Each place has room for one event. -/
theorem length_underWay (h : Sound c.cells) : c.pipe.underWay.length ≤ 4 := by
  have hsingle : (c.readers.map ReadingTask.tag).length ≤ 1 := h.single
  have hoffers : (c.pipe.offers.filterMap Prod.snd).length ≤ c.readers.length :=
    (List.length_filterMap_le _ _).trans_eq (List.length_map _)
  have hplace : ∀ place : Option Numbered, place.toList.length ≤ 1 := by
    intro place
    cases place <;> simp
  have houtput := hplace c.pipe.output
  have hheld := hplace c.pipe.held
  have hinput := hplace c.pipe.input
  rw [List.length_map] at hsingle
  simp only [Pipe.underWay, List.length_append]
  omega

/-- How far a queue reads ahead. Whatever the service answers, whoever calls or does not
call, and however tasks take turns, also while readers are replaced and when the queue is
closed: every event that was read was received, or is outstanding, or was dropped by a
task that stopped. What is outstanding is held by the reader, of which there is one at
most, or is in the input channel, held by the forwarder or in the output channel, so that
there are four events at most. From the moment at which a reader gets an event no entry
is asked for, neither an unacknowledged nor a new one, before the input channel has taken
the event or the reader was stopped. -/
theorem four_outstanding_at_most (h : l.Reachable) :
    (l.crew.received.map Reception.item ++ l.outstanding ++ l.dropped).Perm
      l.crew.pipe.numbered ∧
    l.outstanding.Perm (l.crew.readers.filterMap (·.stage.held?) ++ l.crew.input.toList ++
      (l.crew.forwarder.bind ForwardingTask.held?).toList ++ l.crew.output.toList) ∧
    l.crew.readers.length ≤ 1 ∧ l.outstanding.length ≤ 4 ∧
    ∀ a e, l.crew.act a = some e →
      e.1.readings.map Reading.event = l.crew.readings.map Reading.event ++
        (l.crew.gets a).toList ∧
      ∀ event, l.crew.gets a = some event → e.2 = [] ∧
        ∃ k n, n.event = event ∧ e.1.pipe.numbered = l.crew.pipe.numbered ++ [n] ∧
          ∀ as c b f, e.1.run as = some c → c.act b = some f →
            (∃ command ∈ f.2, command.isFetch = true) →
            ∃ xs y ys c' e', as = xs ++ y :: ys ∧ e.1.run xs = some c' ∧
              c'.act y = some e' ∧ LetsGo k n c' e'.1 := by
  have hsound := h.crew.sound
  have houtstanding := h.outstanding_perm
  refine ⟨?_, ?_, ?_, ?_, ?_⟩
  · refine (List.Perm.append_right _ (List.Perm.append_left _ houtstanding)).trans ?_
    exact h.accounted
  · refine houtstanding.trans (List.perm_iff_count.mpr fun n => ?_)
    have hoffers : (l.crew.readers.map ReadingTask.offer).filterMap Prod.snd =
        l.crew.readers.filterMap (·.stage.held?) := List.filterMap_map
    simp only [Pipe.underWay, pipe, hoffers, List.count_append]
    omega
  · have hsingle : (l.crew.readers.map ReadingTask.tag).length ≤ 1 := hsound.single
    rwa [List.length_map] at hsingle
  · rw [houtstanding.length_eq]
    exact length_underWay hsound
  · intro a e hact
    refine ⟨readings_act hsound hact, fun event hgets => ⟨silent_of_gets hact hgets, ?_⟩⟩
    obtain ⟨k, hholds, hnumbered⟩ := holding_of_gets hsound hact hgets
    refine ⟨k, ⟨l.crew.readings.length, event⟩, rfl, hnumbered, ?_⟩
    rintro as c b f hrun hb ⟨command, hsent, hfetch⟩
    have hreached := h.crew.act hact
    rcases holding_run hreached.sound hholds hrun with hheld | hgone
    · -- whoever asks holds no event
      obtain ⟨j, hempty⟩ := offers_of_fetch (hreached.run hrun).sound hb hsent hfetch
      rw [hheld] at hempty
      cases hempty
    · exact hgone

/-- What acts lead to after a queue was created. -/
def after (s : QueueSettings) (as : List Act) : Option Ledger :=
  match Queue.create s with
  | .ok q => (Ledger.mk (fresh q) []).run as
  | .error _ => none

theorem reachable_of_after {s : QueueSettings} {as : List Act} (h : after s as = some l) :
    l.Reachable := by
  unfold after at h
  split at h
  case h_1 q hcreate => exact (Reachable.fresh hcreate).run h
  case h_2 => cases h

/-- Nobody waits for an event. Three are passed on as far as they get, and the reader holds
the fourth when a publisher finds the connection lost. The next reader gets the fourth entry
again. -/
def fullAndLost : List Act :=
  connecting ++ claiming "1-0" "oak" ++
  [.move 0 .handedOn, .move 0 .forwarderTook, .move 0 .forwarderPut] ++ claiming "2-0" "elm" ++
  [.move 0 .handedOn, .move 0 .forwarderTook] ++ claiming "3-0" "fir" ++ [.move 0 .handedOn] ++
  claiming "4-0" "yew" ++
  [.publish (.delete "ash") .epoch, .answered 0 (.lost "connection closed"),
    .move 0 .recoveryBegan, .move 0 .readerStopped, .move 0 (.recoveryScheduled 0),
    .move 0 .attemptBegan] ++
  connecting ++ claiming "4-0" "yew"

/-- Of five readings one was dropped with its reader, and the others fill the four
places. -/
theorem full_after_loss :
    ∃ l, after { nodeId := "node" } fullAndLost = some l ∧
      l.crew.readings.map Reading.reader = [0, 0, 0, 0, 1] ∧ l.crew.received = [] ∧
      l.dropped.map Numbered.number = [3] ∧ l.outstanding.length = 4 := by
  have hrun : (after { nodeId := "node" } fullAndLost).map (fun l =>
      (l.crew.readings.map Reading.reader, l.crew.received.length,
        l.dropped.map Numbered.number)) = some ([0, 0, 0, 0, 1], 0, [3]) := by
    decide +kernel
  obtain ⟨l, hl, hparts⟩ := Option.map_eq_some_iff.mp hrun
  simp only [Prod.mk.injEq] at hparts
  obtain ⟨hreaders, hunreceived, hdropped⟩ := hparts
  have hreceived : l.crew.received = [] := List.eq_nil_of_length_eq_zero hunreceived
  obtain ⟨haccounted, -, -, hfour, -⟩ := four_outstanding_at_most (reachable_of_after hl)
  have hlength := haccounted.length_eq
  have hread : l.crew.pipe.numbered.length = 5 := by
    rw [Pipe.numbered, List.length_mapIdx, ← List.length_map Reading.reader]
    exact congrArg List.length hreaders
  have hlost : l.dropped.length = 1 := by
    rw [← List.length_map Numbered.number, hdropped]
    rfl
  rw [hreceived, hread, List.length_append, List.length_append, hlost] at hlength
  refine ⟨l, hl, hreaders, hreceived, hdropped, ?_⟩
  simp only [List.map_nil, List.length_nil] at hlength
  omega

end Ledger
end CatalogReplica.Crew
