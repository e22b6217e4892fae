/-
# CatalogReplica.Proofs.Queue.ReadingOrder -- events arrive in the order of reading

What has been received or is under way is, in this order, a part of what was read, and
every reading is on it at most once. What a stopped reader takes with it is the last
that it has read. And what is under way can be received: for that callers and tasks only
have to pass it on.

`Ordered` is the invariant. One lemma for each of its parts says that a step keeps it.
-/
import CatalogReplica.Proofs.Queue.Pipe

namespace CatalogReplica.Crew

namespace Pipe

variable {p p' : Pipe} {isEnding : Bool} {got : Option Event} {dropped : List Numbered} {i : Nat}

/-- The readings keep their numbers, and another one gets the next. -/
theorem numbered_concat {k : Nat} {e : Event} (h : p'.readings = p.readings ++ [⟨k, e⟩]) :
    p'.numbered = p.numbered ++ [⟨p.readings.length, e⟩] := by
  rw [numbered, numbered, h, List.mapIdx_concat]

theorem numbered_of_readings (h : p'.readings = p.readings) : p'.numbered = p.numbered := by
  rw [numbered, numbered, h]

/-- A step reads nothing, or it is a step of a reader that holds nothing. -/
theorem Flow.readings_next (h : Flow isEnding got dropped p p') :
    got = none ∧ p'.readings = p.readings ∨ ∃ k e, got = some e ∧
      p.offers = [(k, none)] ∧ p'.readings = p.readings ++ [⟨k, e⟩] := by
  cases h with
  | keeps unread readings => exact .inl ⟨unread, readings⟩
  | reads k e read reader _ readings => exact .inr ⟨k, e, read, reader, readings⟩
  | stops _ _ unread _ _ readings => exact .inl ⟨unread, readings⟩
  | ends _ unread _ readings => exact .inl ⟨unread, readings⟩

/-- The track stays a part of what was read. -/
theorem Flow.track_next (h : Flow isEnding got dropped p p')
    (htrack : p.track.Sublist p.numbered) : p'.track.Sublist p'.numbered := by
  cases h with
  | keeps _ readings track =>
    rw [track, numbered_of_readings readings]
    exact htrack
  | reads k e _ _ _ readings track =>
    rw [track, numbered_concat readings]
    exact htrack.append (List.Sublist.refl _)
  | stops k held _ _ _ readings track =>
    rw [numbered_of_readings readings]
    refine .trans ?_ htrack
    rw [track]
    exact List.sublist_append_left _ _
  | ends _ _ _ readings track =>
    rw [numbered_of_readings readings]
    exact track.trans htrack

theorem numbers_eq_range (p : Pipe) :
    p.numbered.map Numbered.number = List.range p.readings.length := by
  apply List.ext_getElem
  · simp [numbered]
  · intro i _ _
    simp [numbered]

/-- A reading that is lost stays lost when readers are stopped. -/
theorem Lost.mono (h : p.Lost i) (hreadings : p'.readings = p.readings)
    (hstopped : ∀ k ∈ p.stopped, k ∈ p'.stopped) : p'.Lost i := by
  obtain ⟨x, hx, hreader, hlast⟩ := h
  refine ⟨x, hreadings ▸ hx, hstopped _ hreader, ?_⟩
  rw [hreadings]
  exact hlast

/-- A reading that is lost stays lost when another reader reads. -/
theorem Lost.reads (h : p.Lost i) {k : Nat} {e : Event}
    (hreadings : p'.readings = p.readings ++ [⟨k, e⟩]) (hstopped : p'.stopped = p.stopped)
    (hk : k ∉ p.stopped) : p'.Lost i := by
  obtain ⟨x, hx, hreader, hlast⟩ := h
  have hi : i < p.readings.length := (List.getElem?_eq_some_iff.mp hx).1
  refine ⟨x, ?_, hstopped ▸ hreader, ?_⟩
  · rw [hreadings, List.getElem?_append_left hi]
    exact hx
  · intro j y hij hy
    rw [hreadings] at hy
    by_cases hj : j < p.readings.length
    · rw [List.getElem?_append_left hj] at hy
      exact hlast j y hij hy
    · rw [List.getElem?_append_right (Nat.le_of_not_lt hj), List.getElem?_singleton] at hy
      split at hy <;> cases hy
      intro hsame
      rw [← hsame] at hreader
      exact hk hreader

/-- The last reading of a reader that is stopped is lost. -/
theorem lost_last {k : Nat} {e : Event} (hlast : p.readings.getLast? = some ⟨k, e⟩)
    (hi : i + 1 = p.readings.length) (hk : k ∈ p.stopped) : p.Lost i := by
  refine ⟨⟨k, e⟩, ?_, hk, ?_⟩
  · rw [List.getLast?_eq_getElem?, ← hi] at hlast
    exact hlast
  · intro j y hij hy
    have hj : j < p.readings.length := (List.getElem?_eq_some_iff.mp hy).1
    omega

end Pipe

variable {c : Crew}

/-! ## The order -/

/-- What is true at all times of what was read, what is under way and what was received. -/
structure Ordered (c : Crew) : Prop where
  track : c.pipe.track.Sublist c.pipe.numbered
  readers : (c.pipe.readings.map Reading.reader).Pairwise (· ≤ ·)
  below : ∀ x ∈ c.pipe.readings, x.reader < c.started
  /-- What a reader holds is the last that was read. -/
  offered : ∀ o ∈ c.pipe.offers, ∀ n, o.2 = some n →
    c.pipe.readings.getLast? = some ⟨o.1, n.event⟩ ∧ n.number + 1 = c.pipe.readings.length
  /-- A reader that was stopped is gone, and another one has a greater number. -/
  stopped : ∀ k ∈ c.pipe.stopped, k < c.started ∧ (c.pipe.offers ≠ [] → k + 1 < c.started)
  complete : c.isEnding = false → ∀ i < c.pipe.readings.length,
    i ∈ c.pipe.track.map Numbered.number ∨ c.pipe.Lost i
  forwarding : c.isEnding = false → c.settings.writeOnly = false → c.pipe.isForwarding = true
  created : c.pipe.readings ≠ [] → c.firstAttempt = none

theorem offers_eq_nil_iff : c.pipe.offers = [] ↔ c.cells.roster = [] := by
  simp [pipe, cells]

/-- The reader that there is was started last. -/
theorem Sound.latest_offer (h : Sound c.cells) {o : Nat × Option Numbered}
    (ho : o ∈ c.pipe.offers) : o.1 + 1 = c.started := by
  obtain ⟨t, ht, rfl⟩ := List.mem_map.mp ho
  exact h.latest t.tag (List.mem_map_of_mem ht)

/-- A reader that reads is none of those that were stopped. -/
theorem Ordered.reader_not_stopped (h : Sound c.cells) (ho : Ordered c) {k : Nat}
    (hreader : c.pipe.offers = [(k, none)]) : k + 1 = c.started ∧ k ∉ c.pipe.stopped := by
  have hlatest : k + 1 = c.started :=
    h.latest_offer (show (k, none) ∈ c.pipe.offers by simp [hreader])
  refine ⟨hlatest, fun hstopped => ?_⟩
  have hgreater := (ho.stopped k hstopped).2 (by simp [hreader])
  omega

section Step

variable {a : Act} {e : Effect}

theorem isEnding_of_act (h : Sound c.cells) (hact : c.act a = some e)
    (hon : e.1.isEnding = false) : c.isEnding = false :=
  Bool.eq_false_iff.mpr fun hending =>
    Bool.eq_false_iff.mp hon ((next_act h hact).lasting.ending hending)

/-- No reader is started, or one where there is none. -/
theorem started_next (h : Sound c.cells) (hact : c.act a = some e) :
    e.1.started = c.started ∧ (c.pipe.offers = [] → e.1.pipe.offers = []) ∨
      e.1.started = c.started + 1 ∧ c.pipe.offers = [] := by
  simp only [offers_eq_nil_iff]
  exact (next_act h hact).relief

theorem Ordered.readers_next (h : Sound c.cells) (ho : Ordered c) (hact : c.act a = some e) :
    (e.1.pipe.readings.map Reading.reader).Pairwise (· ≤ ·) := by
  rcases (flow_act h hact).readings_next with ⟨-, hsame⟩ | ⟨k, event, -, hreader, hreadings⟩
  · rw [hsame]
    exact ho.readers
  · obtain ⟨hlatest, -⟩ := ho.reader_not_stopped h hreader
    rw [hreadings, List.map_append]
    refine List.pairwise_append.mpr ⟨ho.readers, List.pairwise_singleton _ _, ?_⟩
    intro j hj k' hk'
    obtain ⟨x, hx, rfl⟩ := List.mem_map.mp hj
    have hbelow := ho.below x hx
    rw [List.mem_singleton.mp hk']
    show x.reader ≤ k
    omega

theorem Ordered.below_next (h : Sound c.cells) (ho : Ordered c) (hact : c.act a = some e) :
    ∀ x ∈ e.1.pipe.readings, x.reader < e.1.started := by
  have hstarted : c.started ≤ e.1.started := by
    have := started_next h hact
    omega
  intro x hx
  apply Nat.lt_of_lt_of_le _ hstarted
  rcases (flow_act h hact).readings_next with ⟨-, hsame⟩ | ⟨k, event, -, hreader, hreadings⟩
  · rw [hsame] at hx
    exact ho.below x hx
  · obtain ⟨hlatest, -⟩ := ho.reader_not_stopped h hreader
    rw [hreadings] at hx
    rcases List.mem_append.mp hx with hold | hnew
    · exact ho.below x hold
    · rw [List.mem_singleton.mp hnew]
      show k < c.started
      omega

theorem Ordered.offered_next (h : Sound c.cells) (ho : Ordered c) (hact : c.act a = some e) :
    ∀ o ∈ e.1.pipe.offers, ∀ n, o.2 = some n →
      e.1.pipe.readings.getLast? = some ⟨o.1, n.event⟩ ∧
        n.number + 1 = e.1.pipe.readings.length := by
  intro o hmem n hn
  cases flow_act h hact with
  | keeps _ readings _ _ offers =>
    rw [readings]
    exact ho.offered o (offers o hmem (by rw [hn]; rfl)) n hn
  | reads k event _ _ offers readings =>
    rw [offers] at hmem
    rw [List.mem_singleton.mp hmem] at hn ⊢
    cases hn
    rw [readings]
    refine ⟨List.getLast?_concat, ?_⟩
    rw [List.length_append]
    rfl
  | stops _ _ _ _ offers =>
    rw [offers] at hmem
    cases hmem
  | ends _ _ offers readings =>
    rw [readings]
    exact ho.offered o (offers ▸ hmem) n hn

/-- Another reader is started only when there is none, and it gets a greater number. -/
theorem Ordered.stopped_next (h : Sound c.cells) (ho : Ordered c) (hact : c.act a = some e) :
    ∀ k ∈ e.1.pipe.stopped, k < e.1.started ∧ (e.1.pipe.offers ≠ [] → k + 1 < e.1.started) := by
  have hbefore : ∀ k ∈ c.pipe.stopped,
      k < e.1.started ∧ (e.1.pipe.offers ≠ [] → k + 1 < e.1.started) := by
    intro k hk
    obtain ⟨hlt, hread⟩ := ho.stopped k hk
    rcases started_next h hact with ⟨hstarted, hunread⟩ | ⟨hstarted, -⟩
    · rw [hstarted]
      exact ⟨hlt, fun hoffers => hread fun hnil => hoffers (hunread hnil)⟩
    · rw [hstarted]
      omega
  cases flow_act h hact with
  | keeps _ _ _ stopped =>
    rw [stopped]
    exact hbefore
  | reads _ _ _ _ _ _ _ stopped =>
    rw [stopped]
    exact hbefore
  | stops k held _ reader offers _ _ stopped =>
    rw [stopped]
    intro j hj
    rcases List.mem_append.mp hj with hold | hnew
    · exact hbefore j hold
    · -- no reader is left after the one that has stopped
      rw [List.mem_singleton.mp hnew]
      have hlatest : k + 1 = c.started :=
        h.latest_offer (show (k, held) ∈ c.pipe.offers by simp [reader])
      have hstarted := started_next h hact
      exact ⟨by omega, fun hoffers => absurd offers hoffers⟩
  | ends _ _ _ _ _ stopped =>
    rw [stopped]
    exact hbefore

/-- A reading is on the track unless it is lost, and it leaves the track only when its
reader is stopped. -/
theorem Ordered.complete_next (h : Sound c.cells) (ho : Ordered c) (hact : c.act a = some e)
    (hon : e.1.isEnding = false) : ∀ i < e.1.pipe.readings.length,
      i ∈ e.1.pipe.track.map Numbered.number ∨ e.1.pipe.Lost i := by
  have hbefore := ho.complete (isEnding_of_act h hact hon)
  intro i hi
  cases flow_act h hact with
  | keeps _ readings track stopped =>
    rw [track]
    rw [readings] at hi
    rcases hbefore i hi with hmem | hlost
    · exact .inl hmem
    · exact .inr (hlost.mono readings fun k hk => stopped ▸ hk)
  | reads k event _ reader _ readings track stopped =>
    rw [track, List.map_append, List.mem_append]
    rw [readings, List.length_append, List.length_singleton] at hi
    by_cases hlast : i = c.pipe.readings.length
    · exact .inl (.inr (List.mem_singleton.mpr hlast))
    · rcases hbefore i (by omega) with hmem | hlost
      · exact .inl (.inl hmem)
      · have hk := (ho.reader_not_stopped h reader).2
        exact .inr (hlost.reads readings stopped hk)
  | stops k held _ reader _ readings track stopped =>
    rw [readings] at hi
    rcases hbefore i hi with hmem | hlost
    · rw [track, List.map_append, List.mem_append] at hmem
      rcases hmem with hkept | hheld
      · exact .inl hkept
      · -- what the reader held is the last that was read
        obtain ⟨n, hn, rfl⟩ := List.mem_map.mp hheld
        have hoffer : (k, held) ∈ c.pipe.offers := by simp [reader]
        obtain ⟨hlast, hnumber⟩ := ho.offered _ hoffer n (Option.mem_toList.mp hn)
        rw [← readings] at hlast hnumber
        have hmem : k ∈ e.1.pipe.stopped := by simp [stopped]
        exact .inr (Pipe.lost_last hlast hnumber hmem)
    · refine .inr (hlost.mono readings fun j hj => ?_)
      rw [stopped]
      exact List.mem_append_left _ hj
  | ends ending =>
    rw [isEnding_of_act h hact hon] at ending
    cases ending

theorem Ordered.forwarding_next (h : Sound c.cells) (ho : Ordered c) (hact : c.act a = some e)
    (hon : e.1.isEnding = false) (hreads : e.1.settings.writeOnly = false) :
    e.1.pipe.isForwarding = true := by
  have hon' := isEnding_of_act h hact hon
  have hwriteOnly : e.1.settings.writeOnly = c.settings.writeOnly :=
    (next_act h hact).lasting.writeOnly
  have hforwarding := ho.forwarding hon' (hwriteOnly ▸ hreads)
  cases flow_act h hact with
  | keeps _ _ _ _ _ forwarding => rw [forwarding, hforwarding]
  | reads _ _ _ _ _ _ _ _ forwarding => rw [forwarding, hforwarding]
  | stops _ _ _ _ _ _ _ _ forwarding => rw [forwarding, hforwarding]
  | ends ending =>
    rw [hon'] at ending
    cases ending

/-- Only a reader reads, and where there is one the queue was created. -/
theorem Ordered.created_next (h : Sound c.cells) (ho : Ordered c) (hact : c.act a = some e)
    (hne : e.1.pipe.readings ≠ []) : e.1.firstAttempt = none := by
  apply (next_act h hact).lasting.created
  rcases (flow_act h hact).readings_next with ⟨-, hsame⟩ | ⟨k, event, -, hreader, -⟩
  · rw [hsame] at hne
    exact ho.created hne
  · refine h.phase.created_of_busy (.inl fun hroster => ?_)
    rw [offers_eq_nil_iff.mpr hroster] at hreader
    cases hreader

theorem Ordered.act (h : Sound c.cells) (ho : Ordered c) (hact : c.act a = some e) :
    Ordered e.1 where
  track := (flow_act h hact).track_next ho.track
  readers := ho.readers_next h hact
  below := ho.below_next h hact
  offered := ho.offered_next h hact
  stopped := ho.stopped_next h hact
  complete := ho.complete_next h hact
  forwarding := ho.forwarding_next h hact
  created := ho.created_next h hact

end Step

theorem ordered_fresh {s : QueueSettings} {q : Queue} (hcreate : Queue.create s = .ok q) :
    Ordered (fresh q) := by
  obtain ⟨consumer, limit, -, rfl⟩ := Queue.eq_of_create hcreate
  refine ⟨?_, List.Pairwise.nil, ?_, ?_, ?_, ?_, ?_, fun hne => absurd rfl hne⟩
  · cases s.writeOnly <;> simp [pipe, fresh, Pipe.track, Pipe.underWay, ForwardingTask.held?]
  · exact fun x hx => absurd hx List.not_mem_nil
  · exact fun o ho => absurd ho List.not_mem_nil
  · exact fun k hk => absurd hk List.not_mem_nil
  · exact fun _ i hi => absurd hi (Nat.not_lt_zero i)
  · intro _ hreads
    have hreads : s.writeOnly = false := hreads
    simp [pipe, fresh, hreads]

theorem Reachable.ordered (h : Reachable c) : Ordered c := by
  induction h with
  | fresh created => exact ordered_fresh created
  | act reached happens ih => exact ih.act reached.sound happens

/-! ## Passing on -/

/-- What the tasks and callers do to pass an event on: no step of the service, and none
that reads, stops or connects. -/
def Act.isPassing : Act → Bool
  | .move _ .handedOn | .move _ .forwarderTook | .move _ .forwarderPut => true
  | .wait _ | .receive => true
  | _ => false

/-- How many places what is under way has to go. -/
def Pipe.distance (p : Pipe) : Nat :=
  p.output.toList.length + 2 * p.held.toList.length + 3 * p.input.toList.length +
    4 * (p.offers.filterMap Prod.snd).length

/-- Events are passed on, and nothing else happens. -/
structure Passes (c c' : Crew) : Prop where
  acts : ∃ as : List Act, (∀ a ∈ as, a.isPassing = true) ∧ c.run as = some c'
  ending : c'.isEnding = c.isEnding
  readings : c'.readings = c.readings
  track : c'.pipe.track = c.pipe.track

theorem Passes.refl (c : Crew) : Passes c c :=
  ⟨⟨[], fun _ ha => absurd ha List.not_mem_nil, rfl⟩, rfl, rfl, rfl⟩

theorem Passes.trans {c' c'' : Crew} (h : Passes c c') (h' : Passes c' c'') : Passes c c'' := by
  obtain ⟨as, hpassing, hrun⟩ := h.acts
  obtain ⟨as', hpassing', hrun'⟩ := h'.acts
  refine ⟨⟨as ++ as', ?_, ?_⟩, h'.ending.trans h.ending, h'.readings.trans h.readings,
    h'.track.trans h.track⟩
  · intro a ha
    rcases List.mem_append.mp ha with hfirst | hsecond
    · exact hpassing a hfirst
    · exact hpassing' a hsecond
  · exact (foldlM_append_of_some hrun as').trans hrun'

variable {n : Numbered}

theorem Passes.of_acts {a : Act} {e : Effect} (hpassing : a.isPassing = true)
    (hact : c.Acts a e) (hending : e.1.isEnding = c.isEnding)
    (hreadings : e.1.readings = c.readings) (htrack : e.1.pipe.track = c.pipe.track) : Passes c e.1 := by
  refine ⟨⟨[a], by simpa using hpassing, ?_⟩, hending, hreadings, htrack⟩
  simp [run, act_eq_some_iff.mpr hact]

/-- A caller gets in line, and the first one in line receives the event. -/
theorem passes_output (hcreated : c.firstAttempt = none) (houtput : c.output = some n) :
    ∃ c', Passes c c' ∧ c'.pipe.distance < c.pipe.distance := by
  obtain ⟨caller, rest, hline⟩ : ∃ caller rest, c.line ++ [0] = caller :: rest :=
    List.exists_cons_of_ne_nil (by simp)
  let waiting : Crew := { c with line := c.line ++ [0] }
  have hwaits : Passes c waiting := .of_acts rfl (.waits hcreated) rfl rfl rfl
  have hreceives := Acts.received (c := waiting) hline houtput
  refine ⟨_, hwaits.trans (.of_acts rfl hreceives rfl rfl ?_), ?_⟩
  · simp [waiting, pipe, houtput, Pipe.track, Pipe.underWay]
  · simp [waiting, pipe, houtput, Pipe.distance]

theorem passes_held (hforwarder : c.forwarder = some (.holding n)) (houtput : c.output = none) :
    ∃ c', Passes c c' ∧ c'.pipe.distance < c.pipe.distance := by
  have hput : c.Moves 0 .forwarderPut _ := .put hforwarder houtput
  refine ⟨_, .of_acts rfl (.move hput) rfl rfl ?_, ?_⟩
  · simp [pipe, hforwarder, houtput, ForwardingTask.held?, Pipe.track, Pipe.underWay]
  · simp [pipe, hforwarder, houtput, ForwardingTask.held?, Pipe.distance]

theorem passes_input (hforwarder : c.forwarder = some .waiting) (hinput : c.input = some n) :
    ∃ c', Passes c c' ∧ c'.pipe.distance < c.pipe.distance := by
  have htook : c.Moves 0 .forwarderTook _ := .took hforwarder hinput
  refine ⟨_, .of_acts rfl (.move htook) rfl rfl ?_, ?_⟩
  · simp [pipe, hforwarder, hinput, ForwardingTask.held?, Pipe.track, Pipe.underWay]
  · simp [pipe, hforwarder, hinput, ForwardingTask.held?, Pipe.distance]

theorem passes_offer {k : Nat} {stopping : Bool} {f : ForwardingTask}
    (hreaders : c.readers = [⟨k, .offering n, stopping⟩]) (hinput : c.input = none)
    (hforwarder : c.forwarder = some f) :
    ∃ c', Passes c c' ∧ c'.pipe.distance < c.pipe.distance := by
  have hfirst : c.readers[0]? = some ⟨k, .offering n, stopping⟩ := by simp [hreaders]
  refine ⟨_, .of_acts rfl (.move (.handedOn hfirst hinput hforwarder)) rfl rfl ?_, ?_⟩
  · simp [pipe, hreaders, hinput, ReadingTask.offer, Pipe.track, Pipe.underWay]
  · simp [pipe, hreaders, hinput, ReadingTask.offer, Pipe.distance]

/-- What is under way was read. -/
theorem Ordered.readings_ne_nil (ho : Ordered c) (hne : c.pipe.underWay ≠ []) :
    c.pipe.readings ≠ [] := by
  intro hnone
  have hnumbered : c.pipe.numbered = [] := by
    rw [Pipe.numbered, hnone]
    rfl
  have htrack := List.sublist_nil.mp (hnumbered ▸ ho.track)
  exact hne (List.append_eq_nil_iff.mp htrack).2

/-- A crew that has read something forwards, until it is told to end. -/
theorem Ordered.forwards (h : Sound c.cells) (ho : Ordered c) (hon : c.isEnding = false)
    (hne : c.pipe.readings ≠ []) : ∃ f, c.forwarder = some f := by
  obtain ⟨x, hx⟩ := List.exists_mem_of_ne_nil _ hne
  have hbelow := ho.below x hx
  have hreads : c.settings.writeOnly = false := Bool.eq_false_iff.mpr fun hwriteOnly => by
    have hunread : c.started = 0 := h.unread hwriteOnly
    omega
  exact Option.isSome_iff_exists.mp (ho.forwarding hon hreads)

/-- Until the crew is told to end, something can be passed on while anything is under way. -/
theorem Ordered.passes_on (h : Sound c.cells) (ho : Ordered c) (hon : c.isEnding = false)
    (hne : c.pipe.underWay ≠ []) : ∃ c', Passes c c' ∧ c'.pipe.distance < c.pipe.distance := by
  have hreadings := ho.readings_ne_nil hne
  obtain ⟨f, hforwarder⟩ := ho.forwards h hon hreadings
  -- the event that is closest to the callers moves first
  cases houtput : c.output with
  | some n => exact passes_output (ho.created hreadings) houtput
  | none =>
    cases f with
    | holding n => exact passes_held hforwarder houtput
    | waiting =>
      cases hinput : c.input with
      | some n => exact passes_input hforwarder hinput
      | none =>
        -- only a reader can have one, and it is the only reader
        have hoffers : c.pipe.offers.filterMap Prod.snd ≠ [] := by
          simpa [Pipe.underWay, pipe, houtput, hforwarder, hinput, ForwardingTask.held?] using hne
        obtain ⟨n, hn⟩ := List.exists_mem_of_ne_nil _ hoffers
        obtain ⟨o, hoffer, hheld⟩ := List.mem_filterMap.mp hn
        obtain ⟨⟨k, stage, stopping⟩, ht, rfl⟩ := List.mem_map.mp hoffer
        obtain rfl : stage = .offering n := Stage.eq_of_held? hheld
        obtain ⟨who, hwho⟩ := List.mem_iff_getElem?.mp ht
        exact passes_offer (h.only_reader hwho).2 hinput hforwarder

/-- Until the crew is told to end, all that is under way can be passed on. -/
theorem Reachable.passes_all (h : Reachable c) (hon : c.isEnding = false) :
    ∃ c', Passes c c' ∧ c'.pipe.underWay = [] := by
  -- by induction on the distance that is left
  induction hd : c.pipe.distance using Nat.strongRecOn generalizing c with
  | ind d ih =>
    by_cases hempty : c.pipe.underWay = []
    · exact ⟨c, .refl c, hempty⟩
    · obtain ⟨c', hpasses, hnearer⟩ := h.ordered.passes_on h.sound hon hempty
      obtain ⟨as, -, hrun⟩ := hpasses.acts
      obtain ⟨c'', hpasses', hempty'⟩ :=
        ih c'.pipe.distance (hd ▸ hnearer) (h.run hrun) (hpasses.ending.trans hon) rfl
      exact ⟨c'', hpasses.trans hpasses', hempty'⟩

/-! ## The order of reception -/

/-- A reading is added to the record exactly when a reader gets an event. -/
theorem readings_act (h : Sound c.cells) {a : Act} {e : Effect} (hact : c.act a = some e) :
    e.1.pipe.readings.map Reading.event =
      c.pipe.readings.map Reading.event ++ (c.gets a).toList := by
  rcases (flow_act h hact).readings_next with ⟨hnone, hsame⟩ | ⟨k, event, hsome, -, hreadings⟩
  · rw [hnone, hsame]
    exact (List.append_nil _).symm
  · rw [hsome, hreadings, List.map_append]
    rfl

/-- What is received, the way of every event through the crew taken into account.

Whatever the service answers, however the tasks take turns and whoever waits or gives up
waiting: the events that were received are, in the order of reception, a part of those
that were read, in the order in which one reader after the other has read them. Of every
reading at most one event was received, by one caller. And until the queue is told to
end, every reading was received, or can be without any more doing of the service, or it
was the last reading of a reader that was stopped. -/
theorem received_in_reading_order (h : Reachable c) :
    (c.received.map Reception.item).Sublist c.pipe.numbered ∧
    (c.received.map (·.item.number)).Nodup ∧
    (c.readings.map Reading.reader).Pairwise (· ≤ ·) ∧
    (∀ a e, c.act a = some e →
      e.1.readings.map Reading.event = c.readings.map Reading.event ++ (c.gets a).toList ∧
      (c.isEnding = false → Mirrors c.queue (shown e) a)) ∧
    (c.isEnding = false →
      (∀ i < c.readings.length, i ∈ c.received.map (·.item.number) ∨
        i ∈ c.pipe.underWay.map Numbered.number ∨ c.pipe.Lost i) ∧
      ∃ as c', (∀ a ∈ as, a.isPassing = true) ∧ c.run as = some c' ∧
        c'.readings = c.readings ∧
        c'.received.map Reception.item = c.received.map Reception.item ++ c.pipe.underWay) := by
  have hsound := h.sound
  have ho := h.ordered
  have hsublist : (c.received.map Reception.item).Sublist c.pipe.numbered :=
    (List.sublist_append_left _ _).trans ho.track
  refine ⟨hsublist, ?_, ho.readers, ?_, fun hon => ⟨?_, ?_⟩⟩
  · have hnumbers := hsublist.map Numbered.number
    rw [Pipe.numbers_eq_range, List.map_map] at hnumbers
    exact List.nodup_range.sublist hnumbers
  · exact fun a e hact => ⟨readings_act hsound hact, fun hon => mirrors_act hsound hon hact⟩
  · intro i hi
    rcases ho.complete hon i hi with hmem | hlost
    · rw [Pipe.track, List.map_append, List.mem_append] at hmem
      rcases hmem with hreceived | hunderWay
      · rw [List.map_map] at hreceived
        exact .inl hreceived
      · exact .inr (.inl hunderWay)
    · exact .inr (.inr hlost)
  · obtain ⟨c', hpasses, hempty⟩ := h.passes_all hon
    obtain ⟨as, hpassing, hrun⟩ := hpasses.acts
    have htrack := hpasses.track
    rw [Pipe.track, hempty, List.append_nil] at htrack
    exact ⟨as, c', hpassing, hrun, hpasses.readings, htrack⟩

/-- The entry of a removal, as the service gives it in answer to a claim. Its text names
nothing else, because all else has a default. -/
def claimAnswer (position id : String) : Outcome :=
  let removal :=
    "\x7b\"type\":\"catalogs\",\"method\":\"delete\",\"catalog\":\x7b\"id\":\"" ++ id ++
      "\"\x7d\x7d"
  .answered (.array [.bulk (Octets.ofString "0-0"), .array [.array [
    .bulk (Octets.ofString position),
    .array [.bulk (Octets.ofString payloadField), .bulk (Octets.ofString removal)]]]])

/-- The reader claims an entry and gets one. -/
def claiming (position id : String) : List Act := [
  .move 0 .readerAsked, .move 0 (.claimAnswered (claimAnswer position id))]

/-- The first of two events is handed on. The reader holds the second when a publisher
loses the connection, and it is stopped. The next reader gets the second entry again.
Meanwhile two callers wait, and the one that came first gives up. -/
def stoppedWithEvent : List Act :=
  connecting ++ claiming "1-0" "oak" ++
  [.move 0 .handedOn, .move 0 .forwarderTook, .move 0 .forwarderPut] ++ claiming "2-0" "elm" ++
  [.publish (.delete "ash") .epoch, .answered 0 (.lost "connection closed"),
    .move 0 .recoveryBegan, .move 0 .readerStopped, .move 0 (.recoveryScheduled 0),
    .move 0 .attemptBegan] ++
  connecting ++ claiming "2-0" "elm" ++ [.wait 7, .wait 8, .abandon 0, .receive]

/-- The event that the stopped reader held is lost, and the entry is read again. -/
theorem lost_with_its_reader :
    ∃ c, after { nodeId := "node" } stoppedWithEvent = some c ∧
      c.readings.map Reading.reader = [0, 0, 1] ∧
      c.received.map (fun x => (x.caller, x.item.number)) = [(8, 0)] ∧
      c.pipe.underWay.map Numbered.number = [2] ∧ c.pipe.Lost 1 := by
  have hrun : (after { nodeId := "node" } stoppedWithEvent).map (fun c =>
      (c.isEnding, c.readings.map Reading.reader,
        c.received.map (fun x => (x.caller, x.item.number)),
        c.pipe.underWay.map Numbered.number)) = some (false, [0, 0, 1], [(8, 0)], [2]) := by
    decide +kernel
  obtain ⟨c, hc, hparts⟩ := Option.map_eq_some_iff.mp hrun
  simp only [Prod.mk.injEq] at hparts
  obtain ⟨hon, hreaders, hreceived, hunderWay⟩ := hparts
  obtain ⟨-, -, -, -, hcomplete⟩ := received_in_reading_order (reachable_of_after hc)
  have hlength : c.readings.length = 3 := by
    rw [← List.length_map Reading.reader, hreaders]
    rfl
  have hnumbers : c.received.map (·.item.number) = [0] := by
    simpa using congrArg (List.map Prod.snd) hreceived
  refine ⟨c, hc, hreaders, hreceived, hunderWay, ?_⟩
  rcases (hcomplete hon).1 1 (by omega) with hmem | hmem | hlost
  · rw [hnumbers] at hmem
    exact absurd hmem (by decide)
  · rw [hunderWay] at hmem
    exact absurd hmem (by decide)
  · exact hlost

end CatalogReplica.Crew
