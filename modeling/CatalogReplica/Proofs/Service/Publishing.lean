/-
# CatalogReplica.Proofs.Service.Publishing -- one change for each write that was taken

A write that is refused leaves everything as it was. Any other is in the store before
its change is handed to the queue, and stays there whatever becomes of the change. So
what was handed to the queue answers, one by one and in order, to the writes that the
store has taken, and a caller learns of each whether its change was published.
-/
import CatalogReplica.Node
import CatalogReplica.Proofs.Service.Writing

namespace CatalogReplica

/-- The failure of a caller who asks for a record that is not there. -/
def Store.missing? (s : Store) (id : String) : Option Failure :=
  if (s.get? id).isNone then some (.notFound (.record id)) else none

namespace Service

/-! ## What a write comes to -/

/-- Why a write is refused, if it is: its draft is not valid, or the store has no
record with the id that it is about. -/
def Write.refusal? (s : Store) : Write → Option Failure
  | .create d => d.fault?
  | .update id d => d.fault?.or (s.missing? id)
  | .delete id => s.missing? id

/-- The record that a write puts in place of the one it is about. -/
def Write.record (s : Store) (freshId : String) (now : Timestamp) : Write → Record
  | .create d => d.record freshId now
  | .update id d => d.onto ((s.get? id).getD default) now
  | .delete id => { (s.get? id).getD default with active := false, updatedAt := now }

/-- The change that tells of a write, which left this record. -/
def Write.change (freshId : String) (w : Write) (r : Record) : Change :=
  match w.action with
  | .upsert => .upsert r
  | .delete => .delete (w.target freshId)

/-- A write is refused for one of three reasons, or it is taken, and then it leaves
one record under the id that it is about. -/
theorem take_eq (s : Store) (freshId : String) (now : Timestamp) (w : Write) :
    take s freshId now w = match w.refusal? s with
      | some f => .error f
      | none => .ok {
          record := w.record s freshId now
          store := ⟨s.records.insert (w.target freshId) (w.record s freshId now)⟩
          change := w.change freshId (w.record s freshId now) } := by
  cases w with
  | create d =>
    simp only [take, Store.insert, Write.refusal?, Draft.validate_eq]
    cases d.fault? with
    | some f => rfl
    | none => rfl
  | update id d =>
    simp only [take, Store.replace, Write.refusal?, Draft.validate_eq, Store.missing?]
    cases d.fault? with
    | some f => rfl
    | none =>
      cases hfound : s.get? id with
      | none => rfl
      | some r =>
        simp only [Write.record, hfound]
        rfl
  | delete id =>
    simp only [take, Store.deactivate, Write.refusal?, Store.missing?]
    cases hfound : s.get? id with
    | none => rfl
    | some r =>
      simp only [Write.record, hfound]
      rfl

/-- What a service works on: the store that it writes to, the cache that it reads
from, and the queue, of which it only sees what became of the changes it handed over. -/
structure Desk where
  store : Store
  cache : Cache
  handed : List (Change × Except Failure EntryId)

namespace Desk

/-- A call is made, and publishing its change, if it comes to it, has this outcome. -/
def call (d : Desk) (c : Call) (published : Except Failure EntryId) :
    Except Failure Record × Desk :=
  match take d.store c.freshId c.now c.write with
  | .error f => (.error f, d)
  | .ok t => (answer t published,
      { d with store := t.store, handed := d.handed ++ [(t.change, published)] })

/-- The desk once calls were made one after another. -/
def after (d : Desk) (calls : List (Call × Except Failure EntryId)) : Desk :=
  calls.foldl (fun d (c, published) => (d.call c published).2) d

@[simp] theorem after_nil (d : Desk) : d.after [] = d := rfl

/-- A call that is refused returns the reason, and that is all. -/
theorem call_refused {d : Desk} {c : Call} {f : Failure}
    (h : c.write.refusal? d.store = some f) (published : Except Failure EntryId) :
    d.call c published = (.error f, d) := by
  unfold call
  rw [take_eq, h]

/-- A call that is not refused has written before it publishes, and what it returns
depends on publishing. -/
theorem call_taken {d : Desk} {c : Call} (h : c.write.refusal? d.store = none)
    (published : Except Failure EntryId) :
    d.call c published =
      let r := c.write.record d.store c.freshId c.now
      (published.map fun _ => r,
        { d with
          store := ⟨d.store.records.insert c.target r⟩
          handed := d.handed ++ [(c.write.change c.freshId r, published)] }) := by
  unfold call
  rw [take_eq, h]
  rfl

/-- What a call comes to, from one desk to the next. -/
inductive Outcome (d : Desk) (c : Call) (published : Except Failure EntryId) :
    Except Failure Record → Desk → Prop where
  /-- The draft is not valid, or there is no such record. -/
  | refused {f : Failure} (reason : c.write.refusal? d.store = some f)
      (kind : (∃ fault, f = .store fault) ∨ ∃ id, f = .notFound (.record id)) :
      Outcome d c published (.error f) d
  /-- One record was written, and its change was handed over. -/
  | written {r : Record} {d' : Desk} (accepted : c.write.refusal? d.store = none)
      (stored : d'.store.get? c.target = some r)
      (others : ∀ id, id ≠ c.target → d'.store.get? id = d.store.get? id)
      (handed : d'.handed = d.handed ++ [(c.write.change c.freshId r, published)])
      (cache : d'.cache = d.cache) :
      Outcome d c published (published.map fun _ => r) d'

end Desk
end Service

/-! ## The calls of a node -/

namespace Node

open Service (Write Call Desk)

/-- What the service of a node works on. -/
def desk (n : Node) : Desk := ⟨n.store, n.replicator.cache, []⟩

/-- A node once the store has taken a write and its change was handed to the queue,
before anything is worked off. -/
def written (n : Node) (t : Service.Taken) : Node :=
  { n with
    store := t.store
    queue := (n.queue.publish t.change).2
    replicator := match (n.queue.publish t.change).1 with
      | .ok _ => n.replicator
      | .error _ => n.replicator.notify .publishFailed }

theorem write_eq (n : Node) (freshId : String) (now : Timestamp) (w : Write) :
    n.write freshId now w = match Service.take n.store freshId now w with
      | .error f => (.error f, n)
      | .ok t => (Service.answer t (n.queue.publish t.change).1, (n.written t).settle) := rfl

theorem written_cache (n : Node) (t : Service.Taken) :
    (n.written t).replicator.cache = n.replicator.cache := by
  unfold written
  cases (n.queue.publish t.change).1 with
  | ok id => rfl
  | error f => rfl

/-- Whether the queue of a node can publish does not depend on the change, and it keeps
those that were published. -/
theorem publish_outcome (q : LocalQueue) :
    ∃ published, ∀ change, (q.publish change).1 = published ∧
      (q.publish change).2.published = q.published ++ if published.isOk then [change] else [] := by
  unfold LocalQueue.publish
  cases q.publishFailure with
  | some f => exact ⟨.error f, fun change => ⟨rfl, (List.append_nil _).symm⟩⟩
  | none => exact ⟨.ok _, fun change => ⟨rfl, rfl⟩⟩

/-- A node that writes makes a call on its desk, and then works off what it can. What
its queue has published are those changes that were handed over and did not fail. -/
theorem write_eq_call (n : Node) (c : Call) :
    ∃ (published : Except Failure EntryId) (n' : Node),
      let written := n.write c.freshId c.now c.write
      let called := n.desk.call c published
      written.1 = called.1 ∧ (written.2 = n' ∨ written.2 = n'.settle) ∧
      n'.store = called.2.store ∧ n'.replicator.cache = called.2.cache ∧
      n'.queue.published = n.queue.published ++
        (called.2.handed.filter fun given => given.2.isOk).map (·.1) := by
  obtain ⟨published, hpublish⟩ := publish_outcome n.queue
  -- node and desk both let the store take the write first
  have hcall : n.desk.call c published =
      match Service.take n.store c.freshId c.now c.write with
      | .error f => (.error f, n.desk)
      | .ok t => (Service.answer t published,
          ⟨t.store, n.replicator.cache, [(t.change, published)]⟩) := rfl
  rw [write_eq]
  cases htake : Service.take n.store c.freshId c.now c.write with
  | error f =>
    rw [htake] at hcall
    refine ⟨published, n, ?_⟩
    rw [hcall]
    exact ⟨rfl, .inl rfl, rfl, rfl, (List.append_nil _).symm⟩
  | ok t =>
    rw [htake] at hcall
    obtain ⟨hresult, hqueue⟩ := hpublish t.change
    have hpublished : (n.written t).queue.published =
        n.queue.published ++ if published.isOk then [t.change] else [] := hqueue
    refine ⟨published, n.written t, ?_⟩
    rw [hcall]
    refine ⟨congrArg (Service.answer t) hresult, .inr rfl, rfl, written_cache n t, ?_⟩
    rw [hpublished]
    cases published with
    | ok id => rfl
    | error f => rfl

end Node
end CatalogReplica
