/-
# CatalogReplica.Proofs.Delivery.AtLeastOnce -- nothing is lost before it is acknowledged

Events are lost on the way in many places: in a reply that is never read, in the
hands of the reader and the forwarder, and in both channels. None of this matters to
the service, where an entry stays pending until it is acknowledged. What could do
harm is a position that has moved past entries which were never delivered. But a
queue moves the group only to places where it has been, since every id that a queue
ever names was shown to it by the service. This is the invariant: all that queues
hold, all that is under way and all that was received is known to the log.
-/
import CatalogReplica.Proofs.Delivery.World
import CatalogReplica.Proofs.Runs

namespace CatalogReplica

/-! ## What the log knows -/

/-- The callers of a queue received the event with this number, it is that of an
entry, and they acknowledged it. -/
def Endpoint.Acknowledged (p : Endpoint) (n : Nat) (id : EntryId) : Prop :=
  ∃ e, p.received[n]? = some e ∧ e.id = id ∧ n ∈ p.acked

/-- A command under way asks for what the group has been through, or acknowledges an
event on behalf of a caller. -/
def Sent.Lawful (l : Log) (p : Endpoint) (s : Sent) : Prop :=
  match s.event with
  | none => s.command.Asks (· ≤ l.highest)
  | some n => ∃ key node id, s.command = .acknowledge key node id ∧ p.Acknowledged n id

/-- All that is held, under way and received at a queue is known to the log. -/
structure Endpoint.Good (l : Log) (p : Endpoint) : Prop where
  holds : p.queue.Holds (· ≤ l.highest) l.Delivers
  sent : ∀ s ∈ p.sent, s.Lawful l p
  answers : ∀ a ∈ p.answers, l.Tells a.2 a.1
  received : ∀ e ∈ p.received, l.Delivers e

/-- A removal counts when a caller of the queue in question had received the event
of this entry, and acknowledged it. -/
def World.Counts (w : World) (id : EntryId) (r : Receipt) : Prop :=
  ∃ n p, r.event = some n ∧ w.queues[r.queue]? = some p ∧ p.Acknowledged n id

/-- The group is sound, and all queues know only what the log knows. -/
structure World.Good (w : World) : Prop where
  sound : w.log.Sound w.Counts
  queues : ∀ p ∈ w.queues, p.Good w.log

/-! ## One queue -/

namespace Endpoint

variable {l : Log} {p p' : Endpoint}

/-- What was acknowledged once stays so. -/
def Extends (p p' : Endpoint) : Prop := ∀ n id, p.Acknowledged n id → p'.Acknowledged n id

theorem Extends.lawful (h : p.Extends p') {s : Sent} (hs : s.Lawful l p) : s.Lawful l p' := by
  unfold Sent.Lawful at hs ⊢
  cases hevent : s.event with
  | none =>
    rw [hevent] at hs
    exact hs
  | some n =>
    rw [hevent] at hs
    obtain ⟨key, node, id, hcommand, hacked⟩ := hs
    exact ⟨key, node, id, hcommand, h n id hacked⟩

theorem Good.grows {l' : Log} (hgrows : l.Grows l') (h : p.Good l) : p.Good l' where
  holds := h.holds.mono (fun _ hid => le_trans hid hgrows.highest) fun _ he => he.grows hgrows
  sent := by
    intro s hs
    have hlawful := h.sent s hs
    unfold Sent.Lawful at hlawful ⊢
    cases hevent : s.event with
    | none =>
      rw [hevent] at hlawful
      exact Command.Asks.mono (fun _ hid => le_trans hid hgrows.highest) hlawful
    | some n =>
      rw [hevent] at hlawful
      exact hlawful
  answers a ha := (h.answers a ha).grows hgrows
  received e he := (h.received e he).grows hgrows

theorem good_fresh {s : QueueSettings} {q : Queue} (hcreate : Queue.create s = .ok q) :
    (fresh q).Good l where
  holds := (Queue.isNew_of_create hcreate).holds
  sent s hs := by cases hs
  answers a ha := by cases ha
  received e he := by cases he

/-- Only the queue has changed. -/
theorem Good.withQueue (h : p.Good l) {q : Queue} (hq : q.Holds (· ≤ l.highest) l.Delivers) :
    ({ p with queue := q } : Endpoint).Good l where
  holds := hq
  sent := h.sent
  answers := h.answers
  received := h.received

/-- More commands have been sent. -/
theorem Good.sends (h : p.Good l) {ss : List Sent} (hss : ∀ s ∈ ss, s.Lawful l p) :
    ({ p with sent := p.sent ++ ss } : Endpoint).Good l where
  holds := h.holds
  sent s hs := by
    rcases List.mem_append.mp hs with hs | hs
    · exact h.sent s hs
    · exact hss s hs
  answers := h.answers
  received := h.received

theorem Good.move (h : p.Good l) {m : Queue.Move} (hm : m.Tells l.Delivers)
    (hmove : p.move m = some p') : p'.Good l ∧ p.Extends p' := by
  obtain ⟨⟨q, cs⟩, hq, rfl⟩ := Option.map_eq_some_iff.mp hmove
  obtain ⟨hholds, hasks⟩ := h.holds.move (fun _ he => he.le_highest) hm hq
  refine ⟨(h.withQueue hholds).sends ?_, fun n id hacked => hacked⟩
  intro s hs
  obtain ⟨c, hc, rfl⟩ := List.mem_map.mp hs
  exact hasks c hc

/-- Who learns of an answer learns what is so. -/
theorem tells_of_report {o : Outcome} {c : Command} {m : Queue.Move} (h : l.Tells o c)
    (hreport : c.report? o = some m) : m.Tells l.Delivers := by
  cases c with
  | createGroup key node =>
    cases hreport
    trivial
  | position key node id =>
    cases hreport
    trivial
  | claim key node minIdle cursor =>
    cases hreport
    intro c c' e he id change hdecode
    exact (h c c' e he).delivers hdecode
  | read key node block =>
    cases hreport
    intro e he id change hdecode
    exact (h e he).delivers hdecode
  | acknowledge key node id => cases hreport
  | append key payload => cases hreport

/-- Nothing is learned from a lost connection. -/
theorem tells_of_isBlind {Known : Event → Prop} {m : Queue.Move} (h : m.isBlind = true) :
    m.Tells Known := by
  cases m with
  | claimAnswered o =>
    cases o with
    | lost reason =>
      intro c c' e he
      cases he
    | answered r => cases h
    | refused r => cases h
  | readAnswered o =>
    cases o with
    | lost reason =>
      intro e he
      cases he
    | answered r => cases h
    | refused r => cases h
  | _ => trivial

theorem Good.receive (h : p.Good l) {e : Event} {q : Queue}
    (hreceive : p.queue.receive = (.item e, q)) :
    ({ p with queue := q, received := p.received ++ [e] } : Endpoint).Good l ∧
      p.Extends { p with queue := q, received := p.received ++ [e] } := by
  have hholds := h.holds.call (Queue.call_of_receive hreceive)
  -- events are received at the end, so the numbers of earlier ones stay
  have hext : p.Extends { p with queue := q, received := p.received ++ [e] } := by
    rintro n id ⟨d, hd, hid, hacked⟩
    obtain ⟨hlt, -⟩ := List.getElem?_eq_some_iff.mp hd
    exact ⟨d, (List.getElem?_append_left hlt).trans hd, hid, hacked⟩
  refine ⟨⟨hholds, fun s hs => hext.lawful (h.sent s hs), h.answers, ?_⟩, hext⟩
  intro d hd
  rcases List.mem_append.mp hd with hd | hd
  · exact h.received d hd
  · rw [List.mem_singleton.mp hd]
    exact h.holds.known_of_receive hreceive

theorem Good.acknowledge (h : p.Good l) {n : Nat} (hack : p.acknowledge n = some p') :
    p'.Good l ∧ p.Extends p' := by
  obtain ⟨e, he, rfl⟩ := Option.map_eq_some_iff.mp hack
  have hext : p.Extends { p with acked := n :: p.acked } := by
    rintro k id ⟨d, hd, hid, hacked⟩
    exact ⟨d, hd, hid, List.mem_cons_of_mem n hacked⟩
  have hgood : ({ p with acked := n :: p.acked } : Endpoint).Good l :=
    ⟨h.holds, fun s hs => hext.lawful (h.sent s hs), h.answers, h.received⟩
  refine ⟨hgood.sends ?_, hext⟩
  intro s hs
  -- without a connection nothing is sent, but the caller has acknowledged
  cases hcommand : p.queue.acknowledge e.id with
  | error f =>
    rw [hcommand] at hs
    cases hs
  | ok c =>
    rw [hcommand] at hs
    rw [List.mem_singleton.mp hs, Queue.acknowledge_eq_ok hcommand]
    exact ⟨_, _, e.id, rfl, e, he, rfl, List.mem_cons_self⟩

/-- Whatever happens at a queue, it knows only what the log knows. -/
theorem Good.act (h : p.Good l) {a : Act} (hact : p.act a = some p') :
    p'.Good l ∧ p.Extends p' := by
  have hsame : p.Extends p := fun _ _ hacked => hacked
  cases does_of_act hact with
  | moves told moves =>
    rcases told with hblind | ⟨c, o, hmem, hreport⟩
    · exact h.move (tells_of_isBlind hblind) moves
    · exact h.move (tells_of_report (h.answers (c, o) hmem) hreport) moves
  | receives receives => exact h.receive receives
  | acknowledges acknowledges => exact h.acknowledge acknowledges
  | publishes publishes =>
    refine ⟨h.sends fun s hs => ?_, hsame⟩
    rw [List.mem_singleton.mp hs]
    exact Queue.asks_publish publishes
  | calls calls => exact ⟨h.withQueue (h.holds.call calls), hsame⟩

end Endpoint

/-! ## The world -/

namespace World

variable {w w' : World}

/-- A queue changes, and knows only what the log knows. -/
theorem Good.put (h : w.Good) {i : Nat} {p p' : Endpoint} (hp : w.queues[i]? = some p)
    (hgood : p'.Good w.log) (hext : p.Extends p') : (w.put i p').Good := by
  constructor
  case sound =>
    refine h.sound.mono ?_
    rintro id r ⟨n, p₁, hn, hp₁, hacked⟩
    -- a removal on behalf of this queue still counts, and so do all others
    by_cases hi : i = r.queue
    · subst hi
      rw [hp] at hp₁
      cases hp₁
      obtain ⟨hlt, -⟩ := List.getElem?_eq_some_iff.mp hp
      exact ⟨n, p', hn, List.getElem?_set_self hlt, hext n id hacked⟩
    · exact ⟨n, p₁, hn, (List.getElem?_set_ne hi).trans hp₁, hacked⟩
  case queues =>
    intro p₁ hp₁
    rcases List.mem_or_eq_of_mem_set hp₁ with hp₁ | rfl
    · exact h.queues p₁ hp₁
    · exact hgood

/-- The log changes. -/
theorem Good.withLog (h : w.Good) {l : Log} (hsound : l.Sound w.Counts)
    (hgrows : w.log.Grows l) : ({ w with log := l } : World).Good where
  sound := hsound
  queues p hp := (h.queues p hp).grows hgrows

/-- A queue is made. -/
theorem Good.withFresh (h : w.Good) {s : QueueSettings} {q : Queue}
    (hcreate : Queue.create s = .ok q) :
    ({ w with queues := w.queues ++ [.fresh q] } : World).Good := by
  constructor
  case sound =>
    refine h.sound.mono ?_
    rintro id r ⟨n, p, hn, hp, hacked⟩
    obtain ⟨hlt, -⟩ := List.getElem?_eq_some_iff.mp hp
    exact ⟨n, p, hn, (List.getElem?_append_left hlt).trans hp, hacked⟩
  case queues =>
    intro p hp
    rcases List.mem_append.mp hp with hp | hp
    · exact h.queues p hp
    · rw [List.mem_singleton.mp hp]
      exact Endpoint.good_fresh hcreate

theorem good_initial (key node : String) {entries : List LogEntry}
    (above : ∀ x ∈ entries, .zero < x.id) (rising : entries.Pairwise fun x y => x.id < y.id) :
    (initial key node entries).Good := by
  constructor
  case sound =>
    constructor
    case above => exact above
    case rising => exact rising
    case reached => exact .inl rfl
    case position_le =>
      intro g hg
      cases hg
    case pending_le =>
      rintro id ⟨g, hg, -⟩
      cases hg
    case settled =>
      intro x hx hle
      exact absurd (above x hx) (not_lt_of_ge hle)
  case queues =>
    intro p hp
    cases hp

/-- A command takes effect. -/
theorem Good.serve (h : w.Good) {i k : Nat} {choice : Log.Choice}
    (hact : w.act (.serve i k choice) = some w') : w'.Good ∧ w.log.Grows w'.log := by
  simp only [World.act] at hact
  obtain ⟨p, hp, hact⟩ := Option.bind_eq_some_iff.mp hact
  obtain ⟨s, hs, hact⟩ := Option.bind_eq_some_iff.mp hact
  obtain ⟨⟨l, o⟩, hserve, hact⟩ := Option.bind_eq_some_iff.mp hact
  cases hact
  have hgood : p.Good w.log := h.queues p (List.mem_of_getElem? hp)
  have hlawful : s.Lawful w.log p := hgood.sent s (List.mem_of_getElem? hs)
  -- a task never acknowledges, and a caller does it for an event that was received
  have hpermits : w.log.Permits w.Counts ⟨i, s.event⟩ s.command := by
    unfold Sent.Lawful at hlawful
    cases hevent : s.event with
    | none =>
      rw [hevent] at hlawful
      cases hcommand : s.command with
      | position key node id =>
        rw [hcommand] at hlawful
        exact hlawful
      | acknowledge key node id =>
        rw [hcommand] at hlawful
        exact False.elim hlawful
      | _ => trivial
    | some n =>
      rw [hevent] at hlawful
      obtain ⟨key, node, id, hcommand, hacked⟩ := hlawful
      rw [hcommand]
      exact ⟨n, p, rfl, hp, hacked⟩
  obtain ⟨hsound, hgrows, htells⟩ := h.sound.serve hpermits hserve
  have hworld : ({ w with log := l } : World).Good := h.withLog hsound hgrows
  have hgrown : p.Good l := hgood.grows hgrows
  -- first the log changes under all queues, then this one gets its answer
  refine ⟨hworld.put hp ⟨hgrown.holds, ?_, ?_, hgrown.received⟩ fun _ _ hacked => hacked, hgrows⟩
  · intro s' hs'
    exact hgrown.sent s' (List.mem_of_mem_eraseIdx hs')
  · intro a ha
    rcases List.mem_cons.mp ha with rfl | ha
    · exact htells
    · exact hgrown.answers a ha

/-- Whatever happens, the group stays sound and the log grows. -/
theorem Good.act (h : w.Good) {a : Act} (hact : w.act a = some w') :
    w'.Good ∧ w.log.Grows w'.log := by
  cases a with
  | start s =>
    simp only [World.act] at hact
    split at hact
    · rename_i q hcreate
      split at hact
      · cases hact
        exact ⟨h.withFresh hcreate, .refl _⟩
      · cases hact
    · cases hact
  | queue i a =>
    simp only [World.act] at hact
    obtain ⟨p, hp, hact⟩ := Option.bind_eq_some_iff.mp hact
    obtain ⟨p', hp', hact⟩ := Option.bind_eq_some_iff.mp hact
    cases hact
    obtain ⟨hgood, hext⟩ := (h.queues p (List.mem_of_getElem? hp)).act hp'
    exact ⟨h.put hp hgood hext, .refl _⟩
  | serve i k choice => exact h.serve hact
  | append id values =>
    simp only [World.act] at hact
    obtain ⟨l, hl, rfl⟩ := Option.map_eq_some_iff.mp hact
    obtain ⟨hsound, hgrows⟩ := h.sound.append hl
    exact ⟨h.withLog hsound hgrows, hgrows⟩

theorem Good.run (h : w.Good) {as : List Act} (hrun : w.run as = some w') :
    w'.Good ∧ w.log.Grows w'.log := by
  refine foldlM_preserves (P := fun v => v.Good ∧ w.log.Grows v.log) ?_ ⟨h, .refl _⟩ hrun
  rintro a - v v' ⟨hgood, hgrows⟩ hact
  obtain ⟨hgood', hgrows'⟩ := hgood.act hact
  exact ⟨hgood', hgrows.trans hgrows'⟩

theorem Reachable.good (h : Reachable w) : w.Good := by
  induction h with
  | initial key node above rising => exact good_initial key node above rising
  | act _ happens ih => exact (ih.act happens).1

theorem Reachable.run (h : Reachable w) {as : List Act} (hrun : w.run as = some w') :
    Reachable w' := by
  refine foldlM_preserves ?_ h hrun
  exact fun _ _ _ _ hv hact => hv.act hact

/-- Take any position that the group has had. In every world that can be reached from
there, each entry up to it is pending, or it was last taken off for an
acknowledgement: a caller had received the event of this very entry, with the change
that it holds, from one of the queues of the node, and acknowledged it. -/
theorem pending_or_acknowledged (h : Reachable w) {g : Group} (hg : w.log.group = some g)
    {as : List Act} (hrun : w.run as = some w') {x : LogEntry} (hx : x ∈ w'.log.entries)
    (hle : x.id ≤ g.position) :
    w'.log.Pending x.id ∨ ∃ r n p e, w'.log.lastRemoval? x.id = some r ∧ r.event = some n ∧
      w'.queues[r.queue]? = some p ∧ p.received[n]? = some e ∧ n ∈ p.acked ∧
        e.id = x.id ∧ x.change? = some e.change := by
  have hgood := h.good
  obtain ⟨hgood', hgrows⟩ := hgood.run hrun
  have hhighest : x.id ≤ w'.log.highest :=
    le_trans (le_trans hle (hgood.sound.position_le hg)) hgrows.highest
  rcases hgood'.sound.settled x hx hhighest with hpending | ⟨r, hr, n, p, hn, hp, e, he, hid, hacked⟩
  · exact .inl hpending
  · refine .inr ⟨r, n, p, e, hr, hn, hp, he, hacked, hid, ?_⟩
    obtain ⟨y, hy, -, hyid, hchange⟩ :=
      (hgood'.queues p (List.mem_of_getElem? hp)).received e (List.mem_of_getElem? he)
    have hsame : y = x := hgood'.sound.entry_unique hy hx (hyid.trans hid)
    exact hsame ▸ hchange

/-! ## A reply that is lost -/

/-- The entry that removes a record. -/
def removalEntry : LogEntry where
  id := (EntryId.of? 1 0).getD .zero
  values := [Octets.ofString payloadField, Octets.ofString (Change.delete "a").json]

/-- The connection is made and the group is prepared. -/
def connecting : List Act := [
  .queue 0 (.move .opened), .queue 0 (.move .opened),
  .serve 0 0 .obey, .queue 0 (.learn 0), .serve 0 0 .obey, .queue 0 (.learn 0)]

/-- A claim finds these entries. -/
def claiming (ids : List EntryId) : List Act := [
  .queue 0 (.move .readerAsked), .serve 0 0 (.find "0-0" ids), .queue 0 (.learn 0)]

/-- A read takes effect, but nobody has learned of it. -/
def unread : List Act :=
  [.start { nodeId := "node" }] ++ connecting ++ claiming [] ++ [.serve 0 0 .obey]

/-- The connection is lost before the reply to the read comes. The queue connects again
and goes back to the beginning; a claim brings the entry, which is received and
acknowledged. -/
def recovered : List Act :=
  [.queue 0 (.move (.readAnswered (.lost "connection closed"))),
    .queue 0 (.move .recoveryBegan), .queue 0 (.move (.recoveryScheduled 0)),
    .queue 0 (.move .attemptBegan)] ++
  connecting ++ claiming [removalEntry.id] ++
  [.queue 0 (.move .handedOn), .queue 0 (.move .forwarderTook), .queue 0 (.move .forwarderPut),
    .queue 0 .receive, .queue 0 (.acknowledge 0), .serve 0 0 .obey]

/-- The entry is no longer pending in the end, because it was received and
acknowledged. -/
theorem unread_recovered :
    ∃ w w', (initial "catalogs-cluster:catalogs" "node" [removalEntry]).run unread = some w ∧
      w.run recovered = some w' ∧ ¬ w'.log.Pending removalEntry.id ∧
      ∃ r n p e, w'.log.lastRemoval? removalEntry.id = some r ∧ r.event = some n ∧
        w'.queues[r.queue]? = some p ∧ p.received[n]? = some e ∧ n ∈ p.acked ∧
          e.id = removalEntry.id ∧ removalEntry.change? = some e.change := by
  have hstart : Reachable (initial "catalogs-cluster:catalogs" "node" [removalEntry]) := by
    refine .initial _ _ ?_ (List.pairwise_singleton _ _)
    intro x hx
    rw [List.mem_singleton.mp hx]
    decide
  have hmiddle : ((initial "catalogs-cluster:catalogs" "node" [removalEntry]).run unread).map
      (fun w => w.log.group) = some (some ⟨removalEntry.id, [removalEntry.id]⟩) := by
    decide +kernel
  obtain ⟨w, hw, hgroup⟩ := Option.map_eq_some_iff.mp hmiddle
  have hend : ((initial "catalogs-cluster:catalogs" "node" [removalEntry]).run
      (unread ++ recovered)).map (fun w => (w.log.entries, w.log.group)) =
        some ([removalEntry], some ⟨.zero, []⟩) := by
    decide +kernel
  obtain ⟨w', hw', hlog⟩ := Option.map_eq_some_iff.mp hend
  obtain ⟨hentries, hgroup'⟩ := Prod.ext_iff.mp hlog
  have hrest : w.run recovered = some w' := by
    unfold run at hw hw' ⊢
    rw [List.foldlM_append, hw] at hw'
    exact hw'
  have hx : removalEntry ∈ w'.log.entries := by
    have hone : w'.log.entries = [removalEntry] := hentries
    rw [hone]
    exact List.mem_singleton_self _
  have hnot : ¬ w'.log.Pending removalEntry.id := by
    intro hpending
    exact absurd ((Log.pending_iff hgroup' _).mp hpending) List.not_mem_nil
  have hsettled := pending_or_acknowledged (hstart.run hw) hgroup hrest hx (le_refl _)
  exact ⟨w, w', hw, hrest, hnot, hsettled.resolve_left hnot⟩

end World
end CatalogReplica
