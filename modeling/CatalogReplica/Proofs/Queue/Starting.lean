/-
# CatalogReplica.Proofs.Queue.Starting -- when a queue begins to read

A reader is started by an attempt to connect that has succeeded, which takes an answer
of the service to one of the two commands that prepare the group. No other move starts a
reader, and none but a reader asks for entries.
-/
import CatalogReplica.Proofs.Queue.Success

namespace CatalogReplica

/-- Whether a command asks for an entry that was never delivered. -/
def Command.isRead : Command → Bool
  | .read .. => true
  | _ => false

/-- Whether a command prepares the group for reading. -/
def Command.isPreparing : Command → Bool
  | .createGroup .. | .position .. => true
  | _ => false

/-- Whether an outcome is an answer, other than a refusal. -/
def Outcome.isAnswer : Outcome → Bool
  | .answered _ => true
  | _ => false

namespace Queue

variable {q : Queue}

/-- Whether a move reports that the service has answered a command that prepares the
group. -/
def Move.isGoAhead : Move → Bool
  | .prepared o => o.isAnswer
  | _ => false

/-- A move starts a reader only on a go-ahead, and asks for entries only with a reader. -/
def Effect.Starts (q : Queue) (m : Move) (e : Effect) : Prop :=
  (e.1.reader.isSome → q.reader.isSome ∨ m.isGoAhead = true) ∧
    ∀ c ∈ e.2, c.isRead = true → q.reader.isSome

theorem starts_of_reader_eq {q' : Queue} (h : q'.reader = q.reader) (m : Move) :
    Effect.Starts q m (q', []) := by
  constructor
  · intro hsome
    exact .inl (h ▸ hsome)
  · intro c hc
    cases hc

/-- Where there is a reader, nothing is asked of a move. -/
theorem starts_of_ne_none {e : Effect} (h : q.reader ≠ none) (m : Move) :
    Effect.Starts q m e := by
  have hsome : q.reader.isSome := Option.isSome_iff_ne_none.mpr h
  exact ⟨fun _ => .inl hsome, fun _ _ _ => hsome⟩

theorem starts_of_none {q' : Queue} (h : q'.reader = none) (m : Move) :
    Effect.Starts q m (q', []) := by
  constructor
  · intro hsome
    rw [h] at hsome
    cases hsome
  · intro c hc
    cases hc

/-- One command that does not read changes nothing about that. -/
theorem Effect.Starts.sends {q' : Queue} {m : Move} (h : Effect.Starts q m (q', [])) {c : Command}
    (hc : c.isRead = false) : Effect.Starts q m (q', [c]) := by
  refine ⟨h.1, ?_⟩
  intro d hd hread
  rw [List.mem_singleton.mp hd, hc] at hread
  cases hread

/-! ## Small changes -/

@[simp]
theorem goOn_reader (q : Queue) (a : Attempt) : (q.goOn a).reader = q.reader := by
  unfold goOn
  split <;> rfl

@[simp]
theorem lose_reader (q : Queue) (f : Failure) : (q.lose f).reader = q.reader := by
  unfold lose
  split <;> rfl

@[simp]
theorem attemptFailed_reader (q : Queue) (f : Failure) :
    (q.attemptFailed f).reader = q.reader := by
  unfold attemptFailed
  dsimp only
  split
  · rw [lose_reader]
    rfl
  · rfl

/-! ## Moves -/

theorem isGoAhead_of_positioned {o : Outcome} (h : Consumer.positioned o = .ok ()) :
    (Move.prepared o).isGoAhead = true := by
  cases o with
  | answered r => rfl
  | refused r => cases h
  | lost reason => cases h

/-- A queue that only publishes starts no reader. -/
theorem attemptSucceeded_starts (hwrite : q.settings.writeOnly = true) (m : Move) :
    Effect.Starts q m (q.attemptSucceeded, []) := by
  unfold attemptSucceeded
  dsimp only
  split
  · exact starts_of_reader_eq rfl m
  · refine starts_of_none ?_ m
    show (if q.settings.writeOnly then none else some _) = _
    rw [if_pos hwrite]

/-- No move starts a reader but on a go-ahead, and none asks for entries without one. -/
theorem move_starts {m : Move} {e : Effect} (h : q.move m = some e) : Effect.Starts q m e := by
  cases move_eq_some_iff.mp h with
  | openedOnly _ publishes => exact attemptSucceeded_starts publishes _
  | openedFirst => exact starts_of_reader_eq (goOn_reader q _) _
  | openedSecond | created => exact (starts_of_reader_eq (goOn_reader q _) _).sends rfl
  | openFailed | notCreated | notPositioned | timedOut =>
    exact starts_of_reader_eq (attemptFailed_reader q _) _
  | positioned _ answer =>
    refine ⟨fun _ => .inr (isGoAhead_of_positioned answer), ?_⟩
    intro c hc
    cases hc
  | asked reader | claimFailed reader | claimed reader | claimedNothing reader
  | readFailed reader | read reader | readNothing reader | handedOn reader
  | readerStopped reader => exact starts_of_ne_none (by simp [reader]) _
  | recoveryBegan =>
    cases hreader : q.reader with
    | none => exact starts_of_none (by simp) _
    | some r => exact starts_of_ne_none (by simp [hreader]) _
  | took | put | forwarderStopped | scheduled | attemptBegan | recoveryStopped =>
    exact starts_of_reader_eq rfl _

/-! ## Calls -/

/-- No call starts a reader or ends one. -/
theorem reader_call {c : Call} {q' : Queue} (h : q.call c = some q') : q'.reader = q.reader := by
  cases call_eq_some_iff.mp h with
  | publishLost | ackLost => exact lose_reader _ _
  | _ => rfl

theorem isRead_of_publish {c : Change} {now : Timestamp} {command : Command}
    (h : q.publish c now = .ok command) : command.isRead = false := by
  rw [publish_eq_ok h]
  rfl

end Queue
end CatalogReplica
