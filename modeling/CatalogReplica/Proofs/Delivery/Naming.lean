/-
# CatalogReplica.Proofs.Delivery.Naming -- what a queue names in its commands

No move and no call changes the settings of a queue, or the names that its consumer was given
with them. Every command that a move sends is one of this consumer, and what callers send
names the same stream and the same group. So the key of its settings is the only one that a
queue ever names.
-/
import CatalogReplica.Proofs.Delivery.Claims
import CatalogReplica.Proofs.Delivery.Given
import CatalogReplica.Proofs.Queue.Standing

namespace CatalogReplica
namespace Queue

variable {q q' : Queue} {e : Effect}

/-! ## Names -/

/-- The consumer of a queue has the names of its settings. -/
structure IsNamed (q : Queue) : Prop where
  key : q.consumer.streamKey = q.settings.streamKey
  node : q.consumer.nodeId = q.settings.nodeId

theorem isNamed_of_create {s : QueueSettings} (h : Queue.create s = .ok q) :
    q.IsNamed ∧ q.settings = s := by
  obtain ⟨consumer, limit, hconsumer, rfl⟩ := Queue.eq_of_create h
  obtain ⟨hkey, hnode⟩ := Journal.names_of_ofSettings hconsumer
  exact ⟨⟨hkey, hnode⟩, rfl⟩

/-- The settings and the names of the consumer stand. -/
theorem IsNamed.keeps (h : q.IsNamed) (hkeeps : Standing.Keeps q.standing q'.standing) :
    q'.IsNamed := by
  obtain ⟨hsettings, ⟨cursor, hconsumer⟩, -⟩ := hkeeps
  have hsettings : q'.settings = q.settings := hsettings
  have hconsumer : q'.consumer = { q.consumer with cursor := cursor } := hconsumer
  constructor
  case key =>
    rw [hconsumer, hsettings]
    exact h.key
  case node =>
    rw [hconsumer, hsettings]
    exact h.node

end Queue

/-! ## Commands -/

namespace Command

/-- The key of the stream that a command concerns. -/
def key : Command → String
  | createGroup key _ => key
  | position key _ _ => key
  | claim key _ _ _ => key
  | read key _ _ => key
  | acknowledge key _ _ => key
  | append key _ => key

/-- The node whose group a command concerns, if it concerns a group. -/
def node? : Command → Option String
  | createGroup _ node => some node
  | position _ node _ => some node
  | claim _ node _ _ => some node
  | read _ node _ => some node
  | acknowledge _ node _ => some node
  | append _ _ => none

/-- A command concerns this stream, and no group but this one. -/
structure Names (key node : String) (c : Command) : Prop where
  key : c.key = key
  node : ∀ n ∈ c.node?, n = node

end Command

theorem Consumer.Sends.names {k : Consumer} {c : Command} (h : k.Sends c) :
    c.Names k.streamKey k.nodeId := by
  cases h with
  | create => exact ⟨rfl, fun _ hn => (Option.some.inj hn).symm⟩
  | position resume => exact ⟨rfl, fun _ hn => (Option.some.inj hn).symm⟩
  | claim cursor => exact ⟨rfl, fun _ hn => (Option.some.inj hn).symm⟩
  | read => exact ⟨rfl, fun _ hn => (Option.some.inj hn).symm⟩
  | acknowledge id => exact ⟨rfl, fun _ hn => (Option.some.inj hn).symm⟩

/-! ## A queue and what is under way -/

namespace Endpoint

variable {p p' : Endpoint}

/-- The key of the stream that the settings of a queue name. -/
def key (p : Endpoint) : String := p.queue.settings.streamKey

/-- The node that the settings of a queue name. -/
def node (p : Endpoint) : String := p.queue.settings.nodeId

/-- All that is under way names what the settings name. -/
structure Named (p : Endpoint) : Prop where
  queue : p.queue.IsNamed
  sent : ∀ s ∈ p.sent, s.command.Names p.key p.node

theorem named_fresh {s : QueueSettings} {q : Queue} (hcreate : Queue.create s = .ok q) :
    (fresh q).Named ∧ (fresh q).queue.settings = s := by
  obtain ⟨hnamed, hsettings⟩ := Queue.isNamed_of_create hcreate
  exact ⟨⟨hnamed, fun _ hs => nomatch hs⟩, hsettings⟩

/-- What a consumer sends names what the settings of its queue name. -/
theorem Named.names (h : p.Named) {c : Command} (hc : p.queue.consumer.Sends c) :
    c.Names p.key p.node := by
  have hnames := hc.names
  rw [h.queue.key, h.queue.node] at hnames
  exact hnames

/-- The queue keeps its settings, and what is sent names what these name. -/
theorem Named.keeps (h : p.Named)
    (hkeeps : Standing.Keeps p.queue.standing p'.queue.standing)
    (hsent : ∀ s ∈ p'.sent, s ∈ p.sent ∨ s.command.Names p.key p.node) :
    p'.Named ∧ p'.queue.settings = p.queue.settings := by
  have hsettings : p'.queue.settings = p.queue.settings := hkeeps.settings
  refine ⟨⟨h.queue.keeps hkeeps, fun s hs => ?_⟩, hsettings⟩
  unfold Endpoint.key Endpoint.node
  rw [hsettings]
  exact (hsent s hs).elim (h.sent s) id

theorem Named.move (h : p.Named) {m : Queue.Move} (hmove : p.move m = some p') :
    p'.Named ∧ p'.queue.settings = p.queue.settings := by
  obtain ⟨⟨q, cs⟩, hq, rfl⟩ := Option.map_eq_some_iff.mp hmove
  have hroutine := (Queue.move_eq_some_iff.mp hq).routine
  refine h.keeps hroutine.keeps fun s hs => ?_
  rcases List.mem_append.mp hs with hold | hnew
  · exact .inl hold
  · obtain ⟨c, hc, rfl⟩ := List.mem_map.mp hnew
    exact .inr (h.names (hroutine.sends c hc))

theorem Named.call (h : p.Named) {c : Queue.Call} {q : Queue} (hcall : p.queue.call c = some q)
    (received : List Event) :
    ({ p with queue := q, received := received } : Endpoint).Named ∧
      q.settings = p.queue.settings :=
  h.keeps (Queue.call_eq_some_iff.mp hcall).keeps fun _ => .inl

theorem Named.acknowledge (h : p.Named) {n : Nat} (hack : p.acknowledge n = some p') :
    p'.Named ∧ p'.queue.settings = p.queue.settings := by
  obtain ⟨e, -, rfl⟩ := Option.map_eq_some_iff.mp hack
  refine h.keeps (.refl _) fun s hs => ?_
  rcases List.mem_append.mp hs with hold | hnew
  · exact .inl hold
  · cases hcommand : p.queue.acknowledge e.id with
    | error f =>
      rw [hcommand] at hnew
      cases hnew
    | ok c =>
      rw [hcommand] at hnew
      obtain rfl := List.mem_singleton.mp hnew
      rw [Queue.acknowledge_eq_ok hcommand]
      exact .inr (h.names (.acknowledge e.id))

theorem Named.publish (h : p.Named) {c : Change} {now : Timestamp} {command : Command}
    (hpublish : p.queue.publish c now = .ok command) : command.Names p.key p.node := by
  rw [Queue.publish_eq_ok hpublish]
  exact ⟨h.queue.key, fun _ hn => nomatch hn⟩

/-- Whatever happens at a queue, it keeps its settings and names nothing else. -/
theorem Named.act (h : p.Named) {a : Act} (hact : p.act a = some p') :
    p'.Named ∧ p'.queue.settings = p.queue.settings := by
  cases does_of_act hact with
  | moves _ moves => exact h.move moves
  | receives receives => exact h.call (Queue.call_of_receive receives) _
  | acknowledges acknowledges => exact h.acknowledge acknowledges
  | publishes publishes =>
    refine h.keeps (.refl _) fun s hs => ?_
    rcases List.mem_append.mp hs with hold | hnew
    · exact .inl hold
    · obtain rfl := List.mem_singleton.mp hnew
      exact .inr (h.publish publishes)
  | calls calls => exact h.call calls _

/-- A command was answered. -/
theorem Named.answered (h : p.Named) (k : Nat) (c : Command) (o : Outcome) :
    (p.answered k c o).Named ∧ (p.answered k c o).queue.settings = p.queue.settings :=
  h.keeps (.refl _) fun _ hs => .inl (List.mem_of_mem_eraseIdx hs)

end Endpoint
end CatalogReplica
