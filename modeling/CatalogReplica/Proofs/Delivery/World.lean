/-
# CatalogReplica.Proofs.Delivery.World -- a log service and the queues of one node

The queues of one node share a group. More of them may be made at any time, while
others still run, and one that does nothing any more has crashed. Between a queue
and the service there are commands that were sent and answers that were given. A
command takes effect at any time after it was sent, also when nobody waits for it
any more, or never; and whoever waits for an answer may find the connection lost
instead, at any time, whether the command has taken effect or not. An answer stays
readable after it was read: the runs here are more than those that connections
allow, so what holds of all of them holds of those.
-/
import CatalogReplica.Proofs.Delivery.Replies
import CatalogReplica.Proofs.Queue.Holding

namespace CatalogReplica

/-! ## A queue and what is under way -/

/-- A command under way, and the received event that it acknowledges, if it is for
that. -/
structure Sent where
  command : Command
  event : Option Nat

/-- A queue, what is under way between it and the service, and what its callers have
done with its events. -/
structure Endpoint where
  queue : Queue
  sent : List Sent
  /-- The answers that were given, each with its command. -/
  answers : List (Command × Outcome)
  /-- The events that callers have received, in order. -/
  received : List Event
  /-- The numbers of the received events that callers have acknowledged. -/
  acked : List Nat

/-- The move that reports the outcome of a command. -/
def Command.report? (o : Outcome) : Command → Option Queue.Move
  | .createGroup .. => some (.prepared o)
  | .position .. => some (.prepared o)
  | .claim .. => some (.claimAnswered o)
  | .read .. => some (.readAnswered o)
  | .acknowledge .. => none
  | .append .. => none

/-- Whether a move reports no answer of the service: a step of a task on its own, or
the loss of a connection. -/
def Queue.Move.isBlind : Queue.Move → Bool
  | .prepared (.lost _) => true
  | .claimAnswered (.lost _) => true
  | .readAnswered (.lost _) => true
  | .prepared _ => false
  | .claimAnswered _ => false
  | .readAnswered _ => false
  | _ => true

namespace Endpoint

/-- A queue of which nothing is known yet. -/
def fresh (q : Queue) : Endpoint := ⟨q, [], [], [], []⟩

/-- What happens at one queue. -/
inductive Act where
  /-- A task moves, without an answer of the service. -/
  | move (m : Queue.Move)
  /-- A task learns of an answer. -/
  | learn (k : Nat)
  | receive
  /-- A caller acknowledges the event with this number. -/
  | acknowledge (n : Nat)
  | ackAnswered (o : Outcome)
  | publish (c : Change) (now : Timestamp)
  | publishAnswered (o : Outcome)
  | beginClose
  | finishClose
  | release

/-- A task moves, and sends what the move sends. -/
def move (p : Endpoint) (m : Queue.Move) : Option Endpoint :=
  (p.queue.move m).map fun (q, cs) =>
    { p with queue := q, sent := p.sent ++ cs.map fun c => ⟨c, none⟩ }

/-- A caller acknowledges an event, whether or not that can be sent. -/
def acknowledge (p : Endpoint) (n : Nat) : Option Endpoint :=
  p.received[n]?.map fun e =>
    let sent := match p.queue.acknowledge e.id with
      | .ok c => [⟨c, some n⟩]
      | .error _ => []
    { p with sent := p.sent ++ sent, acked := n :: p.acked }

/-- The queue after an act, if it is possible. -/
def act (p : Endpoint) : Act → Option Endpoint
  | .move m => if m.isBlind then p.move m else none
  | .learn k => do
    let (c, o) ← p.answers[k]?
    p.move (← c.report? o)
  | .receive =>
    match p.queue.receive with
    | (.item e, q) => some { p with queue := q, received := p.received ++ [e] }
    | _ => none
  | .acknowledge n => p.acknowledge n
  | .ackAnswered o => some { p with queue := (p.queue.ackAnswered o).2 }
  | .publish c now =>
    match p.queue.publish c now with
    | .ok command => some { p with sent := p.sent ++ [⟨command, none⟩] }
    | .error _ => none
  | .publishAnswered o => some { p with queue := (p.queue.publishAnswered o).2 }
  | .beginClose => p.queue.beginClose.map fun q => { p with queue := q }
  | .finishClose => p.queue.finishClose.map fun (_, q) => { p with queue := q }
  | .release => some { p with queue := p.queue.release }

/-- What an act comes to: a task moves, after an answer or without one, or a caller does
something. -/
inductive Does (p : Endpoint) : Endpoint → Prop where
  | moves {m : Queue.Move} {p' : Endpoint}
      (told : m.isBlind = true ∨ ∃ c o, (c, o) ∈ p.answers ∧ c.report? o = some m)
      (moves : p.move m = some p') : Does p p'
  | receives {e : Event} {q : Queue} (receives : p.queue.receive = (.item e, q)) :
      Does p { p with queue := q, received := p.received ++ [e] }
  | acknowledges {n : Nat} {p' : Endpoint} (acknowledges : p.acknowledge n = some p') : Does p p'
  | publishes {c : Change} {now : Timestamp} {command : Command}
      (publishes : p.queue.publish c now = .ok command) :
      Does p { p with sent := p.sent ++ [⟨command, none⟩] }
  /-- A call that is done at once, or learns the outcome of its command. -/
  | calls {c : Queue.Call} {q : Queue} (calls : p.queue.call c = some q) :
      Does p { p with queue := q }

theorem does_of_act {p p' : Endpoint} {a : Act} (h : p.act a = some p') : p.Does p' := by
  cases a with
  | move m =>
    obtain ⟨hblind, hmove⟩ := Option.ite_none_right_eq_some.mp h
    exact .moves (.inl hblind) hmove
  | learn k =>
    obtain ⟨⟨c, o⟩, hanswer, h⟩ := Option.bind_eq_some_iff.mp h
    obtain ⟨m, hreport, hmove⟩ := Option.bind_eq_some_iff.mp h
    exact .moves (.inr ⟨c, o, List.mem_of_getElem? hanswer, hreport⟩) hmove
  | receive =>
    simp only [act] at h
    split at h <;> cases h
    exact .receives ‹_›
  | acknowledge n => exact .acknowledges h
  | publish c now =>
    simp only [act] at h
    split at h <;> cases h
    exact .publishes ‹_›
  | ackAnswered o =>
    cases h
    have hcall : p.queue.call (.ackAnswered o) = some (p.queue.ackAnswered o).2 := rfl
    exact .calls hcall
  | publishAnswered o =>
    cases h
    have hcall : p.queue.call (.publishAnswered o) = some (p.queue.publishAnswered o).2 := rfl
    exact .calls hcall
  | beginClose =>
    obtain ⟨q, hq, rfl⟩ := Option.map_eq_some_iff.mp h
    have hcall : p.queue.call .beginClose = some q := hq
    exact .calls hcall
  | finishClose =>
    obtain ⟨result, hresult, rfl⟩ := Option.map_eq_some_iff.mp h
    have hcall : p.queue.call .finishClose = some result.2 := Option.map_eq_some_iff.mpr
      ⟨result, hresult, rfl⟩
    exact .calls hcall
  | release =>
    cases h
    have hcall : p.queue.call .release = some p.queue.release := rfl
    exact .calls hcall

end Endpoint

/-! ## The world -/

/-- The log with the group of a node, and all queues of this node. -/
structure World where
  log : Log
  queues : List Endpoint

namespace World

/-- What happens in the world. -/
inductive Act where
  /-- A queue of the node is made. -/
  | start (s : QueueSettings)
  /-- Something happens at one queue. -/
  | queue (i : Nat) (a : Endpoint.Act)
  /-- A command of a queue takes effect and is answered. -/
  | serve (i k : Nat) (choice : Log.Choice)
  /-- Somebody else appends an entry. -/
  | append (id : EntryId) (values : List Octets)

/-- The world with one queue replaced. -/
def put (w : World) (i : Nat) (p : Endpoint) : World := { w with queues := w.queues.set i p }

/-- The world after an act, if it is possible. -/
def act (w : World) : Act → Option World
  | .start s =>
    match Queue.create s with
    | .ok q =>
      if s.streamKey = w.log.key ∧ s.nodeId = w.log.node then
        some { w with queues := w.queues ++ [.fresh q] }
      else none
    | .error _ => none
  | .queue i a => do
    let p ← w.queues[i]?
    some (w.put i (← p.act a))
  | .serve i k choice => do
    let p ← w.queues[i]?
    let s ← p.sent[k]?
    let (l, o) ← w.log.serve ⟨i, s.event⟩ s.command choice
    some ({ w with log := l }.put i
      { p with sent := p.sent.eraseIdx k, answers := (s.command, o) :: p.answers })
  | .append id values => (w.log.append id values).map fun l => { w with log := l }

/-- A log with some entries, no group and no queue. -/
def initial (key node : String) (entries : List LogEntry) : World :=
  ⟨⟨key, node, entries, none, .zero, []⟩, []⟩

/-- What can be reached from a log with any entries. -/
inductive Reachable : World → Prop where
  | initial (key node : String) {entries : List LogEntry}
      (above : ∀ x ∈ entries, .zero < x.id) (rising : entries.Pairwise fun x y => x.id < y.id) :
      Reachable (initial key node entries)
  | act {w w' : World} {a : Act} (reached : Reachable w) (happens : w.act a = some w') :
      Reachable w'

/-- Acts one after another. -/
def run (w : World) (as : List Act) : Option World := as.foldlM act w

end World
end CatalogReplica
