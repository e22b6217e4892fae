/-
# CatalogReplica.Proofs.Queue.Success -- what it means that a call succeeds

A queue is created only if its settings can be used and all of its waits can be read. It then
has a consumer with the names and the waits of the settings, and holds nothing. A claim that
was answered moves nothing but the cursor, an entry that is decoded has an id and a payload
that can be read, and a change is published by one append.
-/
import CatalogReplica.Proofs.Runs
import CatalogReplica.Queue.Calls.Steps
import CatalogReplica.Queue.Moves.Steps

namespace CatalogReplica

theorem Entry.decode_eq_ok {e : Entry} {id : EntryId} {change : Change}
    (h : e.decode = .ok (id, change)) : EntryId.read? e.id = some id ∧
      ∃ bytes, Entry.payload e.fields = .ok bytes ∧ Change.ofOctets bytes = .ok change := by
  unfold decode at h
  split at h
  · cases h
  · rename_i hid
    obtain ⟨bytes, hpayload, h⟩ := exists_of_bind_eq_ok h
    split at h
    · rename_i hchange
      cases h
      exact ⟨hid, bytes, hpayload, hchange⟩
    · cases h

theorem Consumer.claimed_eq_ok {k k' : Consumer} {o : Outcome} {found : Option Entry}
    (h : k.claimed o = .ok (found, k')) : ∃ cursor, k' = { k with cursor := cursor } := by
  obtain ⟨reply, -, h⟩ := exists_of_bind_eq_ok h
  split at h
  · cases h
  · rename_i claimed _
    cases h
    exact ⟨claimed.cursor, rfl⟩

variable {s : QueueSettings}

/-- A new consumer has the names and the waits of the settings, and starts to claim from the
beginning. -/
theorem Consumer.eq_of_ofSettings {k : Consumer} (h : Consumer.ofSettings s = .ok k) :
    ∃ ackWait blockTimeout, s.ackWaitSpan = .ok ackWait ∧ s.blockSpan = .ok blockTimeout ∧
      k = { streamKey := s.streamKey, nodeId := s.nodeId, ackWait, blockTimeout } := by
  obtain ⟨ackWait, hwait, h⟩ := exists_of_bind_eq_ok h
  obtain ⟨blockTimeout, hblock, h⟩ := exists_of_bind_eq_ok h
  cases h
  exact ⟨ackWait, blockTimeout, hwait, hblock, rfl⟩

/-- A new queue holds nothing, and is about to make its first connection. -/
theorem Queue.eq_of_create {q : Queue} (hcreate : Queue.create s = .ok q) :
    ∃ (consumer : Consumer) (limit : Span), Consumer.ofSettings s = .ok consumer ∧ q =
      { settings := s
        attemptLimit := limit
        consumer := consumer
        state := .disconnected
        isConnected := false
        resume := none
        firstAttempt := some .opening
        recovery := none
        reader := none
        forwarder := if s.writeOnly then none else some .waiting
        input := none
        output := none
        isClosing := false
        isReleased := false
        measurements := [.queueState LinkState.disconnected.name]
        notices := [] } := by
  obtain ⟨-, -, hcreate⟩ := exists_of_bind_eq_ok hcreate
  split at hcreate
  · obtain ⟨consumer, hconsumer, hcreate⟩ := exists_of_bind_eq_ok hcreate
    obtain ⟨limit, -, hcreate⟩ := exists_of_bind_eq_ok hcreate
    cases hcreate
    exact ⟨consumer, limit, hconsumer, rfl⟩
  · cases hcreate

/-- What is published is the text of the change, with the time of publishing. -/
theorem Queue.publish_eq_ok {q : Queue} {c : Change} {now : Timestamp} {command : Command}
    (h : q.publish c now = .ok command) :
    command = .append q.consumer.streamKey (c.publishedAt now).json := by
  unfold publish at h
  split at h
  · cases h
  · split at h
    · cases h
      rfl
    · cases h

end CatalogReplica
