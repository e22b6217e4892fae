/-
# CatalogReplica.Proofs.Delivery.Given -- what the service has given to a queue

A queue knows of an entry from two kinds of answers, those to reads and those to claims,
and its callers know of it from the queue. So what the queue holds, where it asks to go
on, and what its callers acknowledge, was all given to it by the service at some time
since it was made. It was given to this queue, and not to another one of the node: a new
queue holds nothing, whatever the group has been through before.
-/
import CatalogReplica.Proofs.Delivery.AtLeastOnce
import CatalogReplica.Proofs.Queue.Starting

namespace CatalogReplica

/-! ## What answers show -/

/-- Whether a command claims pending entries. -/
def Command.isClaim : Command → Bool
  | .claim .. => true
  | _ => false

/-- The id of an entry in a reply. -/
def Reply.entryId? : Reply → Option EntryId
  | .array (.bulk id :: _) => (Octets.text? id).bind EntryId.read?
  | _ => none

namespace Outcome

/-- The ids that an answer to a read shows. -/
def readIds : Outcome → List EntryId
  | .answered (.array [.array [_, .array entries]]) => entries.filterMap Reply.entryId?
  | _ => []

/-- The ids that an answer to a claim shows. -/
def claimedIds : Outcome → List EntryId
  | .answered (.array [_, .array entries, _]) => entries.filterMap Reply.entryId?
  | _ => []

end Outcome

theorem LogEntry.entryId?_reply (x : LogEntry) : x.reply.entryId? = some x.id := by
  unfold LogEntry.reply Reply.entryId?
  dsimp only
  rw [Octets.text?_ofString, Option.bind_some, EntryId.read?_text]

theorem Outcome.claimedIds_reply (cursor : Reply) (xs : List LogEntry) (rest : Reply) :
    (Outcome.answered (.array [cursor, .array (xs.map LogEntry.reply), rest])).claimedIds =
      xs.map LogEntry.id := by
  unfold Outcome.claimedIds
  dsimp only
  rw [List.filterMap_map]
  have hid : (Reply.entryId? ∘ LogEntry.reply) = some ∘ LogEntry.id :=
    funext LogEntry.entryId?_reply
  rw [hid, List.filterMap_eq_map]

theorem Outcome.readIds_reply (stream : Reply) (x : LogEntry) :
    (Outcome.answered (.array [.array [stream, .array [x.reply]]])).readIds = [x.id] := by
  unfold Outcome.readIds
  dsimp only
  rw [List.filterMap_cons_some x.entryId?_reply, List.filterMap_nil]

/-! ## What a queue was given -/

namespace Endpoint

/-- The service has given an entry to this queue in answer to a read. The answer may
have been lost. -/
def WasRead (p : Endpoint) (id : EntryId) : Prop :=
  ∃ a ∈ p.answers, a.1.isRead = true ∧ id ∈ a.2.readIds

/-- The service has given an entry to this queue in answer to a claim. The answer may
have been lost. -/
def WasClaimed (p : Endpoint) (id : EntryId) : Prop :=
  ∃ a ∈ p.answers, a.1.isClaim = true ∧ id ∈ a.2.claimedIds

/-- The service has given an entry to this queue. -/
def WasGiven (p : Endpoint) (id : EntryId) : Prop := p.WasRead id ∨ p.WasClaimed id

/-- A caller has received the event of an entry from this queue. -/
def HasReceived (p : Endpoint) (id : EntryId) : Prop := ∃ e ∈ p.received, e.id = id

/-- The service has answered a command of this queue that prepares the group. -/
def IsPlaced (p : Endpoint) : Prop :=
  ∃ a ∈ p.answers, a.1.isPreparing = true ∧ a.2.isAnswer = true

instance (p : Endpoint) (id : EntryId) : Decidable (p.WasRead id) :=
  inferInstanceAs (Decidable (∃ a ∈ p.answers, a.1.isRead = true ∧ id ∈ a.2.readIds))

instance (p : Endpoint) (id : EntryId) : Decidable (p.WasClaimed id) :=
  inferInstanceAs (Decidable (∃ a ∈ p.answers, a.1.isClaim = true ∧ id ∈ a.2.claimedIds))

instance (p : Endpoint) (id : EntryId) : Decidable (p.WasGiven id) :=
  inferInstanceAs (Decidable (p.WasRead id ∨ p.WasClaimed id))

instance (p : Endpoint) (id : EntryId) : Decidable (p.HasReceived id) :=
  inferInstanceAs (Decidable (∃ e ∈ p.received, e.id = id))

instance (p : Endpoint) : Decidable p.IsPlaced :=
  inferInstanceAs (Decidable (∃ a ∈ p.answers, a.1.isPreparing = true ∧ a.2.isAnswer = true))

/-- A command of a queue rests on what the queue was given: it places the group where the
queue has been, it acknowledges what a caller has received, and it reads when the group is
placed. -/
def Fits (p : Endpoint) : Command → Prop
  | .position _ _ id => ∀ i ∈ id, p.WasGiven i
  | .acknowledge _ _ id => p.HasReceived id
  | .read .. => p.IsPlaced
  | _ => True

/-- What a queue knows is what it was given, and it reads only when the group is
placed. -/
structure Informed (p : Endpoint) : Prop where
  holds : p.queue.Holds p.WasGiven fun e => p.WasGiven e.id
  sent : ∀ s ∈ p.sent, p.Fits s.command
  reader : p.queue.reader.isSome → p.IsPlaced
  tells : ∀ a ∈ p.answers, ∀ {m}, a.1.report? a.2 = some m → m.Tells fun e => p.WasGiven e.id

variable {p p' : Endpoint}

/-- More may be given, received and placed. -/
theorem Fits.mono (hgiven : ∀ id, p.WasGiven id → p'.WasGiven id)
    (hreceived : ∀ id, p.HasReceived id → p'.HasReceived id) (hplaced : p.IsPlaced → p'.IsPlaced)
    {c : Command} (h : p.Fits c) : p'.Fits c := by
  cases c with
  | position key node id => exact fun i hi => hgiven i (h i hi)
  | acknowledge key node id => exact hreceived id h
  | read key node block => exact hplaced h
  | _ => trivial

/-- A command that does not acknowledge. -/
theorem fits_of_asks {c : Command} (hasks : c.Asks p.WasGiven)
    (hplaced : c.isRead = true → p.IsPlaced) : p.Fits c := by
  cases c with
  | position key node id => exact hasks
  | acknowledge key node id => exact False.elim hasks
  | read key node block => exact hplaced rfl
  | _ => trivial

theorem informed_fresh {s : QueueSettings} {q : Queue} (hcreate : Queue.create s = .ok q) :
    (fresh q).Informed where
  holds := (Queue.isNew_of_create hcreate).holds
  sent s hs := by cases hs
  reader hsome := by
    rw [show (fresh q).queue.reader = none from (Queue.isNew_of_create hcreate).reader] at hsome
    cases hsome
  tells a ha := by cases ha

/-! ## What a queue does -/

/-- A queue that does something on its own is given nothing, and its callers keep what
they have received. -/
structure Goes (p p' : Endpoint) : Prop where
  answers : p'.answers = p.answers
  received : ∀ {id}, p.HasReceived id → p'.HasReceived id

theorem Goes.wasGiven (h : p.Goes p') : p'.WasGiven = p.WasGiven := by
  funext id
  unfold WasGiven WasRead WasClaimed
  rw [h.answers]

theorem Goes.isPlaced (h : p.Goes p') : p'.IsPlaced = p.IsPlaced := by
  unfold IsPlaced
  rw [h.answers]

/-- More is sent, and the queue changes. -/
theorem Informed.goes (h : p.Informed) (hgoes : p.Goes p')
    (hholds : p'.queue.Holds p.WasGiven fun e => p.WasGiven e.id)
    (hreader : p'.queue.reader.isSome → p.IsPlaced)
    (hsent : ∀ s ∈ p'.sent, s ∈ p.sent ∨ p.Fits s.command) : p'.Informed := by
  constructor
  case holds =>
    rw [hgoes.wasGiven]
    exact hholds
  case sent =>
    intro s hs
    have hfits : p.Fits s.command := (hsent s hs).elim (h.sent s) id
    refine hfits.mono ?_ (fun _ => hgoes.received) ?_
    · rw [hgoes.wasGiven]
      exact fun _ hid => hid
    · rw [hgoes.isPlaced]
      exact id
  case reader =>
    rw [hgoes.isPlaced]
    exact hreader
  case tells =>
    intro a ha m hreport
    rw [hgoes.answers] at ha
    rw [hgoes.wasGiven]
    exact h.tells a ha hreport

/-- Only the queue changes, and it starts no reader. -/
theorem Informed.withQueue (h : p.Informed) {q : Queue}
    (hholds : q.Holds p.WasGiven fun e => p.WasGiven e.id)
    (hreader : q.reader.isSome → p.queue.reader.isSome) :
    ({ p with queue := q } : Endpoint).Informed ∧ p.Goes { p with queue := q } := by
  have hgoes : p.Goes { p with queue := q } := ⟨rfl, id⟩
  refine ⟨h.goes hgoes hholds (fun hsome => h.reader (hreader hsome)) ?_, hgoes⟩
  intro s hs
  exact .inl hs

theorem Informed.move (h : p.Informed) {m : Queue.Move}
    (htells : m.Tells fun e => p.WasGiven e.id) (hplaced : m.isGoAhead = true → p.IsPlaced)
    (hmove : p.move m = some p') : p'.Informed ∧ p.Goes p' := by
  obtain ⟨⟨q, cs⟩, hq, rfl⟩ := Option.map_eq_some_iff.mp hmove
  obtain ⟨hholds, hasks⟩ := h.holds.move (fun _ hgiven => hgiven) htells hq
  obtain ⟨hstarts, hreads⟩ := Queue.move_starts hq
  have hgoes : p.Goes
      { p with queue := q, sent := p.sent ++ cs.map fun c => ⟨c, none⟩ } := ⟨rfl, id⟩
  refine ⟨h.goes hgoes hholds ?_ ?_, hgoes⟩
  · -- a reader that was not there before was started on an answer
    intro hsome
    rcases hstarts hsome with hreader | hgo
    · exact h.reader hreader
    · exact hplaced hgo
  · -- what a task sends on its own never acknowledges
    intro s hs
    rcases List.mem_append.mp hs with hold | hnew
    · exact .inl hold
    · obtain ⟨c, hc, rfl⟩ := List.mem_map.mp hnew
      exact .inr (fits_of_asks (hasks c hc) fun hread => h.reader (hreads c hc hread))

/-- A move without an answer is no go-ahead. -/
theorem isGoAhead_of_isBlind {m : Queue.Move} (h : m.isBlind = true) : m.isGoAhead = false := by
  cases m with
  | prepared o =>
    cases o with
    | answered r => cases h
    | refused r => rfl
    | lost reason => rfl
  | _ => rfl

/-- A go-ahead is learned from an answer to a command that prepares the group. -/
theorem isPlaced_of_report {c : Command} {o : Outcome} (hmem : (c, o) ∈ p.answers)
    {m : Queue.Move} (hreport : c.report? o = some m) (hgo : m.isGoAhead = true) : p.IsPlaced := by
  cases c with
  | createGroup key node =>
    cases hreport
    exact ⟨_, hmem, rfl, hgo⟩
  | position key node id =>
    cases hreport
    exact ⟨_, hmem, rfl, hgo⟩
  | claim key node minIdle cursor =>
    cases hreport
    cases hgo
  | read key node block =>
    cases hreport
    cases hgo
  | acknowledge key node id => cases hreport
  | append key payload => cases hreport

theorem Informed.receive (h : p.Informed) {e : Event} {q : Queue}
    (hreceive : p.queue.receive = (.item e, q)) :
    ({ p with queue := q, received := p.received ++ [e] } : Endpoint).Informed ∧
      p.Goes { p with queue := q, received := p.received ++ [e] } := by
  have hcall := Queue.call_of_receive hreceive
  have hgoes : p.Goes { p with queue := q, received := p.received ++ [e] } := by
    refine ⟨rfl, ?_⟩
    rintro id ⟨d, hd, hid⟩
    exact ⟨d, List.mem_append_left _ hd, hid⟩
  refine ⟨h.goes hgoes (h.holds.call hcall) ?_ fun s hs => .inl hs, hgoes⟩
  intro hsome
  exact h.reader (Queue.reader_call hcall ▸ hsome)

theorem Informed.acknowledge (h : p.Informed) {n : Nat} (hack : p.acknowledge n = some p') :
    p'.Informed ∧ p.Goes p' := by
  obtain ⟨e, he, rfl⟩ := Option.map_eq_some_iff.mp hack
  have hmem : e ∈ p.received := List.mem_of_getElem? he
  refine ⟨h.goes ⟨rfl, id⟩ h.holds h.reader ?_, rfl, id⟩
  intro s hs
  rcases List.mem_append.mp hs with hold | hnew
  · exact .inl hold
  · cases hcommand : p.queue.acknowledge e.id with
    | error f =>
      rw [hcommand] at hnew
      cases hnew
    | ok c =>
      rw [hcommand] at hnew
      obtain rfl := List.mem_singleton.mp hnew
      right
      show p.Fits c
      rw [Queue.acknowledge_eq_ok hcommand]
      exact ⟨e, hmem, rfl⟩

/-- Whatever happens at a queue, it knows only what it was given. -/
theorem Informed.act (h : p.Informed) {a : Act} (hact : p.act a = some p') :
    p'.Informed ∧ p.Goes p' := by
  cases does_of_act hact with
  | moves told moves =>
    rcases told with hblind | ⟨c, o, hmem, hreport⟩
    · refine h.move (tells_of_isBlind hblind) ?_ moves
      intro hgo
      rw [isGoAhead_of_isBlind hblind] at hgo
      cases hgo
    · exact h.move (h.tells (c, o) hmem hreport) (isPlaced_of_report hmem hreport) moves
  | receives receives => exact h.receive receives
  | acknowledges acknowledges => exact h.acknowledge acknowledges
  | @publishes c now command publishes =>
    have hgoes : p.Goes { p with sent := p.sent ++ [⟨command, none⟩] } := ⟨rfl, id⟩
    refine ⟨h.goes hgoes h.holds h.reader ?_, hgoes⟩
    intro s hs
    rcases List.mem_append.mp hs with hold | hnew
    · exact .inl hold
    · obtain rfl := List.mem_singleton.mp hnew
      refine .inr (fits_of_asks (Queue.asks_publish publishes) fun hread => ?_)
      rw [Queue.isRead_of_publish publishes] at hread
      cases hread
  | calls calls =>
    exact h.withQueue (h.holds.call calls) fun hsome => Queue.reader_call calls ▸ hsome

/-! ## What the service does for a queue -/

/-- A command was answered. -/
def answered (p : Endpoint) (k : Nat) (c : Command) (o : Outcome) : Endpoint :=
  { p with sent := p.sent.eraseIdx k, answers := (c, o) :: p.answers }

section Answered

variable {k : Nat} {c : Command} {o : Outcome} {id : EntryId}

theorem wasRead_answered : (p.answered k c o).WasRead id ↔
    (c.isRead = true ∧ id ∈ o.readIds) ∨ p.WasRead id := by
  simp only [WasRead, Endpoint.answered, List.mem_cons, exists_eq_or_imp]

theorem wasClaimed_answered : (p.answered k c o).WasClaimed id ↔
    (c.isClaim = true ∧ id ∈ o.claimedIds) ∨ p.WasClaimed id := by
  simp only [WasClaimed, Endpoint.answered, List.mem_cons, exists_eq_or_imp]

theorem isPlaced_answered : (p.answered k c o).IsPlaced ↔
    (c.isPreparing = true ∧ o.isAnswer = true) ∨ p.IsPlaced := by
  simp only [IsPlaced, Endpoint.answered, List.mem_cons, exists_eq_or_imp]

theorem WasGiven.answered (h : p.WasGiven id) : (p.answered k c o).WasGiven id := by
  rcases h with hread | hclaimed
  · exact .inl (wasRead_answered.mpr (.inr hread))
  · exact .inr (wasClaimed_answered.mpr (.inr hclaimed))

theorem IsPlaced.answered (h : p.IsPlaced) : (p.answered k c o).IsPlaced :=
  isPlaced_answered.mpr (.inr h)

/-- A queue learns from an answer what it was given with it. -/
theorem tells_of_serves {l l' : Log} {r : Receipt} (hserves : l.Serves r c l' o) {m : Queue.Move}
    (hreport : c.report? o = some m) :
    m.Tells fun e => (p.answered k c o).WasGiven e.id := by
  -- an event is learned from two answers only, and its id is the one that the answer shows
  cases hserves with
  | refuses _ refusal =>
    cases c with
    | claim key node minIdle start =>
      cases hreport
      intro c c' e he
      cases he
    | read key node block =>
      cases hreport
      intro e he
      cases he
    | createGroup key node =>
      cases hreport
      trivial
    | position key node id =>
      cases hreport
      trivial
    | acknowledge key node id => cases hreport
    | append key payload => cases hreport
  | creates key node hg =>
    cases hreport
    trivial
  | places key node id hg =>
    cases hreport
    trivial
  | readsNothing key node block =>
    cases hreport
    intro e he
    cases he
  | reads key node block hg hx =>
    cases hreport
    intro e he id change hdecode
    obtain ⟨hid, -⟩ := Log.shown_of_read he
    rw [Entry.id_of_decode hid hdecode]
    refine .inl (wasRead_answered.mpr (.inl ⟨rfl, ?_⟩))
    rw [Outcome.readIds_reply]
    exact List.mem_cons_self
  | claims key node minIdle start cursor hg hids =>
    cases hreport
    intro c c' e he id change hdecode
    obtain ⟨x, hx, hid, -⟩ := Log.shown_of_claimed he
    rw [Entry.id_of_decode hid hdecode]
    refine .inr (wasClaimed_answered.mpr (.inl ⟨rfl, ?_⟩))
    rw [Outcome.claimedIds_reply]
    exact List.mem_map.mpr ⟨x, hx, rfl⟩
  | acknowledges key node hg hid => cases hreport
  | acknowledgesNothing key node id => cases hreport
  | appends key payload hl => cases hreport

/-- A command of a queue takes effect, and the queue still knows only what it was
given. -/
theorem Informed.serves (h : p.Informed) {l l' : Log} {r : Receipt} (hserves : l.Serves r c l' o) :
    (p.answered k c o).Informed where
  holds := h.holds.mono (fun _ hid => hid.answered) fun _ he => he.answered
  sent s hs := (h.sent s (List.mem_of_mem_eraseIdx hs)).mono (fun _ hid => hid.answered)
    (fun _ hid => hid) fun hplaced => hplaced.answered
  reader hsome := (h.reader hsome).answered
  tells a ha m hreport := by
    rcases List.mem_cons.mp ha with rfl | hold
    · exact tells_of_serves hserves hreport
    · exact (h.tells a hold hreport).mono fun _ he => he.answered

end Answered
end Endpoint
end CatalogReplica
