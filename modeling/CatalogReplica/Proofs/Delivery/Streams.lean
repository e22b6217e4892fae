/-
# CatalogReplica.Proofs.Delivery.Streams -- one log service for the queues of all nodes

A log service keeps many streams apart by their keys, and the groups of a stream by the names
of their nodes. It finds the stream and the group of a command by what the command names, does
with them what it does with one stream and one group (`Log.serve`), and leaves everything else
as it is; a new entry is there for all groups of its stream.

Queues of any settings share such a service. Whom a queue has to do with is not laid down here:
that only queues with the same key can have anything to do with each other follows from what
they name. What the service does not keep is noted beside it, which entries were published and
through which of the queues.
-/
import CatalogReplica.Proofs.Delivery.Naming

namespace CatalogReplica

/-! ## Many streams -/

/-- The group of a node, with what is noted of it. -/
structure GroupRecord where
  group : Option Group := none
  highest : EntryId := .zero
  removals : List (EntryId × Receipt) := []

/-- All streams by their keys, and all groups by the keys of their streams and their nodes. -/
structure Streams where
  entries : String → List LogEntry
  groups : String → String → GroupRecord

namespace Streams

/-- One stream with the group of one node. -/
def log (s : Streams) (key node : String) : Log where
  key := key
  node := node
  entries := s.entries key
  group := (s.groups key node).group
  highest := (s.groups key node).highest
  removals := (s.groups key node).removals

/-- Puts a stream and a group in their places. -/
def put (s : Streams) (l : Log) : Streams where
  entries key := if key = l.key then l.entries else s.entries key
  groups key node :=
    if key = l.key ∧ node = l.node then ⟨l.group, l.highest, l.removals⟩ else s.groups key node

/-- What becomes of a command. One that concerns no group is served with any. -/
def serve (s : Streams) (r : Receipt) (c : Command) (choice : Log.Choice) :
    Option (Streams × Outcome) :=
  ((s.log c.key (c.node?.getD "")).serve r c choice).map fun (l, o) => (s.put l, o)

/-- Somebody appends an entry to a stream. -/
def append (s : Streams) (key : String) (id : EntryId) (values : List Octets) : Option Streams :=
  ((s.log key "").append id values).map s.put

variable {s s' : Streams} {l : Log} {key node : String}

theorem log_put_self (s : Streams) (l : Log) : (s.put l).log l.key l.node = l := by
  simp [log, put]

/-- The other groups of a stream only see its entries. -/
theorem log_put_beside (s : Streams) (hnode : node ≠ l.node) :
    (s.put l).log l.key node = { s.log l.key node with entries := l.entries } := by
  simp [log, put, hnode]

theorem log_put_apart (s : Streams) (hkey : key ≠ l.key) (node : String) :
    (s.put l).log key node = s.log key node := by
  simp [log, put, hkey]

end Streams

/-! ## What a command leaves as it is -/

namespace Log

variable {l l' : Log} {r : Receipt} {c : Command} {o : Outcome}

theorem Serves.names (h : l.Serves r c l' o) : l'.key = l.key ∧ l'.node = l.node := by
  cases h with
  | appends key payload happend =>
    obtain ⟨-, -, rfl⟩ := append_eq_some happend
    exact ⟨rfl, rfl⟩
  | _ => exact ⟨rfl, rfl⟩

theorem Serves.entries (h : l.Serves r c l' o) :
    l'.entries = l.entries ∨ ∃ id values, l.append id values = some l' := by
  cases h with
  | appends key payload happend => exact .inr ⟨_, _, happend⟩
  | _ => exact .inl rfl

end Log

/-! ## Many queues -/

/-- An entry was published: through which queue, and where it is. -/
structure Publication where
  queue : Nat
  key : String
  id : EntryId
  deriving DecidableEq

/-- What is noted when a command of a queue has taken effect. -/
def Publication.of? (queue : Nat) : Command → Log.Choice → Option Publication
  | .append key _, .name id => some ⟨queue, key, id⟩
  | _, _ => none

/-- A log service with all that it keeps, and queues of any settings. -/
structure Shared where
  streams : Streams
  queues : List Endpoint
  published : List Publication

namespace Shared

/-- What happens. -/
inductive Act where
  /-- A queue is made. -/
  | start (s : QueueSettings)
  /-- Something happens at one queue. -/
  | queue (i : Nat) (a : Endpoint.Act)
  /-- A command of a queue takes effect and is answered. -/
  | serve (i k : Nat) (choice : Log.Choice)
  /-- Somebody else appends an entry. -/
  | append (key : String) (id : EntryId) (values : List Octets)

/-- Whether a queue acts, or the service for it. -/
def Act.isOf (i : Nat) : Act → Bool
  | .queue j _ => j == i
  | .serve j _ _ => j == i
  | _ => false

/-- What there is after a command of a queue was answered. -/
def served (w : Shared) (i : Nat) (p : Endpoint) (k : Nat) (s : Sent) (choice : Log.Choice)
    (streams : Streams) (o : Outcome) : Shared where
  streams := streams
  queues := w.queues.set i (p.answered k s.command o)
  published := (Publication.of? i s.command choice).toList ++ w.published

/-- What there is after an act, if it is possible. -/
def act (w : Shared) : Act → Option Shared
  | .start s =>
    match Queue.create s with
    | .ok q => some { w with queues := w.queues ++ [.fresh q] }
    | .error _ => none
  | .queue i a => do
    let p ← w.queues[i]?
    some { w with queues := w.queues.set i (← p.act a) }
  | .serve i k choice => do
    let p ← w.queues[i]?
    let s ← p.sent[k]?
    let (streams, o) ← w.streams.serve ⟨i, s.event⟩ s.command choice
    some (w.served i p k s choice streams o)
  | .append key id values => (w.streams.append key id values).map fun streams =>
      { w with streams := streams }

/-- What an act does. -/
inductive Step (w : Shared) : Act → Shared → Prop where
  | start {s : QueueSettings} {q : Queue} (create : Queue.create s = .ok q) :
    Step w (.start s) { w with queues := w.queues ++ [.fresh q] }
  | queue {i : Nat} {a : Endpoint.Act} {p p' : Endpoint} (there : w.queues[i]? = some p)
      (acts : p.act a = some p') : Step w (.queue i a) { w with queues := w.queues.set i p' }
  | serve {i k : Nat} {choice : Log.Choice} {p : Endpoint} {s : Sent} {streams : Streams}
      {o : Outcome} (there : w.queues[i]? = some p) (sent : p.sent[k]? = some s)
      (serves : w.streams.serve ⟨i, s.event⟩ s.command choice = some (streams, o)) :
    Step w (.serve i k choice) (w.served i p k s choice streams o)
  | append {key : String} {id : EntryId} {values : List Octets} {streams : Streams}
      (appends : w.streams.append key id values = some streams) :
    Step w (.append key id values) { w with streams := streams }

theorem act_eq_some_iff {w w' : Shared} {a : Act} : w.act a = some w' ↔ w.Step a w' := by
  constructor
  · intro h
    cases a <;> simp only [act] at h
    case start s =>
      split at h <;> cases h
      exact .start ‹_›
    case queue i a =>
      obtain ⟨p, hp, h⟩ := Option.bind_eq_some_iff.mp h
      obtain ⟨p', hp', h⟩ := Option.bind_eq_some_iff.mp h
      cases h
      exact .queue hp hp'
    case serve i k choice =>
      obtain ⟨p, hp, h⟩ := Option.bind_eq_some_iff.mp h
      obtain ⟨s, hs, h⟩ := Option.bind_eq_some_iff.mp h
      obtain ⟨⟨streams, o⟩, hserve, h⟩ := Option.bind_eq_some_iff.mp h
      cases h
      exact .serve hp hs hserve
    case append key id values =>
      obtain ⟨streams, happend, rfl⟩ := Option.map_eq_some_iff.mp h
      exact .append happend
  · intro h
    cases h with
    | start hcreate => simp only [act, hcreate]
    | queue hp hp' => simp only [act, hp, hp', bind, Option.bind_some]
    | serve hp hs hserve => simp only [act, hp, hs, hserve, bind, Option.bind_some]
    | append happend => simp only [act, happend, Option.map_some]

/-- Acts one after another. -/
def run (w : Shared) (as : List Act) : Option Shared := as.foldlM act w

/-- A service with some entries, no group and no queue. -/
def initial (entries : String → List LogEntry) : Shared := ⟨⟨entries, fun _ _ => {}⟩, [], []⟩

/-- What can be reached from streams with any entries. -/
inductive Reachable : Shared → Prop where
  | initial {entries : String → List LogEntry} (above : ∀ key, ∀ x ∈ entries key, .zero < x.id)
      (rising : ∀ key, (entries key).Pairwise fun x y => x.id < y.id) : Reachable (initial entries)
  | act {w w' : Shared} {a : Act} (reached : Reachable w) (happens : w.act a = some w') :
      Reachable w'

/-- The callers of a queue have received an event whose entry was published through another
queue. An entry is known by its id and the key of its stream. -/
def DeliversFrom (w : Shared) (i j : Nat) : Prop :=
  ∃ p e, w.queues[j]? = some p ∧ e ∈ p.received ∧ ⟨i, p.key, e.id⟩ ∈ w.published

end Shared

/-! ## All streams are sound -/

namespace Streams

variable {s s' : Streams} {l : Log} {key node : String}

/-- Every group of every stream is sound, no matter who acknowledges. -/
def Sound (s : Streams) : Prop := ∀ key node, (s.log key node).Sound fun _ _ => True

/-- Every stream grows. -/
def Grows (s s' : Streams) : Prop := ∀ key node, (s.log key node).Grows (s'.log key node)

/-- A stream and a group are put in their places. All groups of other streams stay as they
are, and the other groups of this stream only see its entries. -/
theorem Sound.put (h : s.Sound)
    (self : l.Sound (fun _ _ => True) ∧ (s.log l.key l.node).Grows l)
    (beside : ∀ n, n ≠ l.node → ∀ l', l' = { s.log l.key n with entries := l.entries } →
      l'.Sound (fun _ _ => True) ∧ (s.log l.key n).Grows l') :
    (s.put l).Sound ∧ s.Grows (s.put l) := by
  have heach (k n : String) : ((s.put l).log k n).Sound (fun _ _ => True) ∧
      (s.log k n).Grows ((s.put l).log k n) := by
    by_cases hkey : k = l.key
    · subst hkey
      by_cases hnode : n = l.node
      · subst hnode
        rw [log_put_self]
        exact self
      · exact beside n hnode _ (log_put_beside s hnode)
    · rw [log_put_apart s hkey n]
      exact ⟨h k n, .refl _⟩
  exact ⟨fun k n => (heach k n).1, fun k n => (heach k n).2⟩

/-- A group is put where nothing but itself changes. -/
theorem Sound.put_group (h : s.Sound) (hnames : l.key = key ∧ l.node = node)
    (hentries : l.entries = s.entries key) (hsound : l.Sound fun _ _ => True)
    (hgrows : (s.log key node).Grows l) : (s.put l).Sound ∧ s.Grows (s.put l) := by
  obtain ⟨rfl, rfl⟩ := hnames
  refine h.put ⟨hsound, hgrows⟩ ?_
  rintro n - l' rfl
  rw [hentries]
  exact ⟨h l.key n, .refl _⟩

/-- A new entry is there for every group of its stream. -/
theorem Sound.put_append (h : s.Sound) {id : EntryId} {values : List Octets}
    (happend : (s.log key node).append id values = some l) :
    (s.put l).Sound ∧ s.Grows (s.put l) := by
  obtain ⟨hzero, hlast, hl⟩ := Log.append_eq_some happend
  have hnames : l.key = key ∧ l.node = node := by
    rw [hl]
    exact ⟨rfl, rfl⟩
  have hentries : l.entries = s.entries key ++ [⟨id, values⟩] := by
    rw [hl]
    rfl
  obtain ⟨rfl, rfl⟩ := hnames
  refine h.put ((h l.key l.node).append happend) ?_
  rintro n - l' rfl
  have hthis : (s.log l.key n).append id values =
      some { s.log l.key n with entries := l.entries } := by
    rw [Log.append, if_pos ⟨hzero, hlast⟩, hentries]
    rfl
  exact (h l.key n).append hthis

theorem Sound.append (h : s.Sound) {id : EntryId} {values : List Octets}
    (happend : s.append key id values = some s') : s'.Sound ∧ s.Grows s' := by
  obtain ⟨l, hl, rfl⟩ := Option.map_eq_some_iff.mp happend
  exact h.put_append hl

/-- The service keeps all groups sound, drops no entry, and tells what is so. -/
theorem Sound.serve (h : s.Sound) {r : Receipt} {c : Command}
    (hpermits : (s.log c.key (c.node?.getD "")).Permits (fun _ _ => True) r c)
    {choice : Log.Choice} {o : Outcome} (hserve : s.serve r c choice = some (s', o)) :
    s'.Sound ∧ s.Grows s' ∧ (s'.log c.key (c.node?.getD "")).Tells o c := by
  obtain ⟨⟨l, o⟩, hlog, heq⟩ := Option.map_eq_some_iff.mp hserve
  cases heq
  have hserves := Log.serves_of_serve hlog
  have hnames := hserves.names
  obtain ⟨hsound, hgrows, htells⟩ := (h _ _).serve hpermits hlog
  have hthere : (s.put l).log c.key (c.node?.getD "") = l := by
    rw [show c.key = l.key from hnames.1.symm, show c.node?.getD "" = l.node from hnames.2.symm,
      log_put_self]
  rw [hthere]
  rcases hserves.entries with hentries | ⟨id, values, happend⟩
  · obtain ⟨hputs, hgrown⟩ := h.put_group hnames hentries hsound hgrows
    exact ⟨hputs, hgrown, htells⟩
  · obtain ⟨hputs, hgrown⟩ := h.put_append happend
    exact ⟨hputs, hgrown, htells⟩

end Streams

/-! ## All is named, and all is known -/

/-- What a command that concerns no group tells, and what it may ask for, is the same for every
group. -/
theorem Command.Names.eq_or_append {c : Command} {key node : String} (h : c.Names key node) :
    c.node?.getD "" = node ∨ ∃ text, c = .append key text := by
  obtain ⟨rfl, hnode⟩ := h
  cases c with
  | append key text => exact .inr ⟨text, rfl⟩
  | _ => exact .inl (hnode _ rfl)

/-- What is under way asks for what the group of the queue has been through. -/
theorem Sent.Lawful.permits {l : Log} {p : Endpoint} {s : Sent} (h : s.Lawful l p) (r : Receipt) :
    l.Permits (fun _ _ => True) r s.command := by
  unfold Sent.Lawful at h
  cases hcommand : s.command with
  | position key node id =>
    rw [hcommand] at h
    cases hevent : s.event with
    | none =>
      rw [hevent] at h
      exact h
    | some n =>
      rw [hevent] at h
      obtain ⟨_, _, _, hack, -⟩ := h
      cases hack
  | _ => trivial

namespace Shared

variable {w w' : Shared}

/-- Each queue names only what its settings name, and knows only what the log of its node
shows; and what was published is in the stream that the settings of its queue name. -/
structure Good (w : Shared) : Prop where
  sound : w.streams.Sound
  named : ∀ p ∈ w.queues, p.Named
  queues : ∀ p ∈ w.queues, p.Good (w.streams.log p.key p.node)
  published : ∀ x ∈ w.published, ∃ p, w.queues[x.queue]? = some p ∧ p.key = x.key

theorem good_initial {entries : String → List LogEntry}
    (above : ∀ key, ∀ x ∈ entries key, .zero < x.id)
    (rising : ∀ key, (entries key).Pairwise fun x y => x.id < y.id) : (initial entries).Good := by
  constructor
  case sound =>
    intro key node
    have hworld := (World.good_initial key node (above key) (rising key)).sound
    exact hworld.mono fun _ _ _ => trivial
  case named => exact fun p hp => nomatch hp
  case queues => exact fun p hp => nomatch hp
  case published => exact fun x hx => nomatch hx

/-- A queue changes. -/
theorem Good.put (h : w.Good) {i : Nat} {p p' : Endpoint} (hp : w.queues[i]? = some p)
    (hsettings : p'.queue.settings = p.queue.settings) (hnamed : p'.Named)
    (hgood : p'.Good (w.streams.log p.key p.node)) :
    ({ w with queues := w.queues.set i p' } : Shared).Good := by
  have hkey : p'.key = p.key := congrArg QueueSettings.streamKey hsettings
  have hnode : p'.node = p.node := congrArg QueueSettings.nodeId hsettings
  obtain ⟨hlt, -⟩ := List.getElem?_eq_some_iff.mp hp
  constructor
  case sound => exact h.sound
  case named =>
    intro q hq
    rcases List.mem_or_eq_of_mem_set hq with hq | rfl
    · exact h.named q hq
    · exact hnamed
  case queues =>
    intro q hq
    rcases List.mem_or_eq_of_mem_set hq with hq | rfl
    · exact h.queues q hq
    · rw [hkey, hnode]
      exact hgood
  case published =>
    intro x hx
    obtain ⟨q, hq, hqkey⟩ := h.published x hx
    by_cases hi : i = x.queue
    · subst hi
      rw [hp] at hq
      cases hq
      exact ⟨p', List.getElem?_set_self hlt, hkey.trans hqkey⟩
    · exact ⟨q, (List.getElem?_set_ne hi).trans hq, hqkey⟩

/-- The streams grow. -/
theorem Good.withStreams (h : w.Good) {s : Streams} (hsound : s.Sound)
    (hgrows : w.streams.Grows s) : ({ w with streams := s } : Shared).Good where
  sound := hsound
  named := h.named
  queues p hp := (h.queues p hp).grows (hgrows p.key p.node)
  published := h.published

/-- A queue is made. -/
theorem Good.withFresh (h : w.Good) {s : QueueSettings} {q : Queue}
    (hcreate : Queue.create s = .ok q) :
    ({ w with queues := w.queues ++ [.fresh q] } : Shared).Good := by
  constructor
  case sound => exact h.sound
  case named =>
    intro p hp
    rcases List.mem_append.mp hp with hp | hp
    · exact h.named p hp
    · rw [List.mem_singleton.mp hp]
      exact (Endpoint.named_fresh hcreate).1
  case queues =>
    intro p hp
    rcases List.mem_append.mp hp with hp | hp
    · exact h.queues p hp
    · rw [List.mem_singleton.mp hp]
      exact Endpoint.good_fresh hcreate
  case published =>
    intro x hx
    obtain ⟨p, hp, hkey⟩ := h.published x hx
    obtain ⟨hlt, -⟩ := List.getElem?_eq_some_iff.mp hp
    exact ⟨p, (List.getElem?_append_left hlt).trans hp, hkey⟩

/-- An entry was published in the stream that the settings of its queue name. -/
theorem Good.publishes (h : w.Good) {x : Option Publication}
    (hx : ∀ y ∈ x, ∃ p, w.queues[y.queue]? = some p ∧ p.key = y.key) :
    ({ w with published := x.toList ++ w.published } : Shared).Good where
  sound := h.sound
  named := h.named
  queues := h.queues
  published y hy := by
    rcases List.mem_append.mp hy with hy | hy
    · exact hx y (Option.mem_toList.mp hy)
    · exact h.published y hy

/-- What is noted of a command names the queue and the stream of this command. -/
theorem eq_of_mem_of? {i : Nat} {c : Command} {choice : Log.Choice} {x : Publication}
    (hx : x ∈ Publication.of? i c choice) : x.queue = i ∧ x.key = c.key := by
  unfold Publication.of? at hx
  split at hx
  · cases hx
    exact ⟨rfl, rfl⟩
  · cases hx

/-- A command takes effect. -/
theorem Good.serve (h : w.Good) {i k : Nat} {choice : Log.Choice} {p : Endpoint} {s : Sent}
    {streams : Streams} {o : Outcome} (hp : w.queues[i]? = some p) (hs : p.sent[k]? = some s)
    (hserve : w.streams.serve ⟨i, s.event⟩ s.command choice = some (streams, o)) :
    (w.served i p k s choice streams o).Good := by
  have hmem : p ∈ w.queues := List.mem_of_getElem? hp
  have hnamed : p.Named := h.named p hmem
  have hnames : s.command.Names p.key p.node := hnamed.sent s (List.mem_of_getElem? hs)
  have hlawful : s.Lawful (w.streams.log p.key p.node) p :=
    (h.queues p hmem).sent s (List.mem_of_getElem? hs)
  have hpermits : (w.streams.log s.command.key (s.command.node?.getD "")).Permits
      (fun _ _ => True) ⟨i, s.event⟩ s.command := by
    rcases hnames.eq_or_append with hnode | ⟨text, happend⟩
    · rw [hnames.key, hnode]
      exact hlawful.permits _
    · rw [happend]
      trivial
  obtain ⟨hsound, hgrows, htells⟩ := h.sound.serve hpermits hserve
  have htold : (streams.log p.key p.node).Tells o s.command := by
    rcases hnames.eq_or_append with hnode | ⟨text, happend⟩
    · rw [hnames.key, hnode] at htells
      exact htells
    · rw [happend]
      trivial
  -- first the streams change under all queues, then this one gets its answer
  have hgrown : ({ w with streams := streams } : Shared).Good := h.withStreams hsound hgrows
  have hgood : p.Good (streams.log p.key p.node) := hgrown.queues p hmem
  obtain ⟨hnamed', hsettings⟩ := hnamed.answered k s.command o
  have hgood' : (p.answered k s.command o).Good (streams.log p.key p.node) := by
    refine ⟨hgood.holds, ?_, ?_, hgood.received⟩
    · intro s' hs'
      exact hgood.sent s' (List.mem_of_mem_eraseIdx hs')
    · intro a ha
      rcases List.mem_cons.mp ha with rfl | ha
      · exact htold
      · exact hgood.answers a ha
  have hput := hgrown.put hp hsettings hnamed' hgood'
  refine hput.publishes fun x hx => ?_
  obtain ⟨rfl, hkey⟩ := eq_of_mem_of? hx
  obtain ⟨hlt, -⟩ := List.getElem?_eq_some_iff.mp hp
  exact ⟨_, List.getElem?_set_self hlt, hnames.key.symm.trans hkey.symm⟩

/-- Whatever happens, all stays named and known. -/
theorem Good.act (h : w.Good) {a : Act} (hact : w.act a = some w') : w'.Good := by
  cases act_eq_some_iff.mp hact with
  | start hcreate => exact h.withFresh hcreate
  | queue hp hp' =>
    have hmem := List.mem_of_getElem? hp
    obtain ⟨hnamed, hsettings⟩ := (h.named _ hmem).act hp'
    exact h.put hp hsettings hnamed ((h.queues _ hmem).act hp').1
  | serve hp hs hserve => exact h.serve hp hs hserve
  | append happend =>
    obtain ⟨hsound, hgrows⟩ := h.sound.append happend
    exact h.withStreams hsound hgrows

theorem Reachable.good (h : Reachable w) : w.Good := by
  induction h with
  | initial above rising => exact good_initial above rising
  | act _ happens ih => exact ih.act happens

theorem Reachable.run (h : Reachable w) {as : List Act} (hrun : w.run as = some w') :
    Reachable w' := by
  refine foldlM_preserves ?_ h hrun
  exact fun _ _ _ _ hv hact => hv.act hact

/-- What callers have received from a queue are the changes of entries of its own stream. -/
theorem Good.received (h : w.Good) {p : Endpoint} (hp : p ∈ w.queues) {e : Event}
    (he : e ∈ p.received) :
    ∃ x ∈ w.streams.entries p.key, x.id = e.id ∧ x.change? = some e.change := by
  obtain ⟨x, hx, -, hid, hchange⟩ := (h.queues p hp).received e he
  exact ⟨x, hx, hid, hchange⟩

/-- Only queues that name the same stream have anything to do with each other. -/
theorem Good.key_eq_of_deliversFrom (h : w.Good) {i j : Nat} {p q : Endpoint}
    (hp : w.queues[i]? = some p) (hq : w.queues[j]? = some q) (hdelivers : w.DeliversFrom i j) :
    p.key = q.key := by
  obtain ⟨q', e, hq', -, hpublished⟩ := hdelivers
  obtain ⟨p', hp', hkey⟩ := h.published _ hpublished
  rw [hp] at hp'
  rw [hq] at hq'
  cases hp'
  cases hq'
  exact hkey

end Shared
end CatalogReplica
