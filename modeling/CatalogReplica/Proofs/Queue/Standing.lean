/-
# CatalogReplica.Proofs.Queue.Standing -- what stands whatever happens, and what is sent

Whatever happens to a queue, its settings stay as they are, and so does its consumer but for
the place where the next claim starts; and once it was told to close, it stays told. All that
its tasks send are commands of this consumer. Callers acknowledge, which is one of its commands
too, and they append.

A queue and its crew have all this in common, their *standing*. What a step may do to it, and
send, is said once, and then found for the moves of a queue and of a crew by their cases.
-/
import CatalogReplica.Proofs.Queue.Crew.Steps

namespace CatalogReplica

/-- What a consumer sends, wherever its next claim starts. -/
inductive Consumer.Sends (k : Consumer) : Command → Prop where
  | create : Sends k (.createGroup k.streamKey k.nodeId)
  | position (resume : Option EntryId) : Sends k (.position k.streamKey k.nodeId resume)
  | claim (cursor : String) : Sends k (.claim k.streamKey k.nodeId k.ackWait.millis cursor)
  | read : Sends k (.read k.streamKey k.nodeId k.blockTimeout.millis)
  | acknowledge (id : EntryId) : Sends k (.acknowledge k.streamKey k.nodeId id)

/-- What commands are made of, and whether they are still made. -/
structure Standing where
  settings : QueueSettings
  consumer : Consumer
  isClosing : Bool

namespace Standing

variable {s s' s'' : Standing} {sent : List Command}

/-- What is settled once and for all: the settings, the consumer but for where its next claim
starts, and, once the queue was told to close, that it was. -/
structure Keeps (s s' : Standing) : Prop where
  settings : s'.settings = s.settings
  consumer : ∃ cursor, s'.consumer = { s.consumer with cursor := cursor }
  closing : s.isClosing = true → s'.isClosing = true

/-- A step that sends nothing but what the consumer sends. -/
structure Routine (s s' : Standing) (sent : List Command) : Prop where
  keeps : Keeps s s'
  sends : ∀ command ∈ sent, s.consumer.Sends command

theorem Keeps.refl (s : Standing) : Keeps s s := ⟨rfl, ⟨s.consumer.cursor, rfl⟩, id⟩

theorem Keeps.of_eq (h : s' = s) : Keeps s s' := h ▸ .refl s

theorem Keeps.trans (h : Keeps s s') (h' : Keeps s' s'') : Keeps s s'' := by
  obtain ⟨cursor, hconsumer⟩ := h.consumer
  obtain ⟨cursor', hconsumer'⟩ := h'.consumer
  refine ⟨h'.settings.trans h.settings, ⟨cursor', ?_⟩, h'.closing ∘ h.closing⟩
  rw [hconsumer', hconsumer]

/-- To tell a queue to close changes nothing else. -/
theorem Keeps.told (s : Standing) : Keeps s { s with isClosing := true } :=
  ⟨rfl, ⟨s.consumer.cursor, rfl⟩, fun _ => rfl⟩

/-- A claim that was answered moves the cursor alone. -/
theorem Keeps.of_claimed {o : Outcome} {found : Option Entry} {k : Consumer}
    (h : s.consumer.claimed o = .ok (found, k)) : Keeps s { s with consumer := k } :=
  ⟨rfl, Consumer.claimed_eq_ok h, id⟩

theorem sends_read_of_claimed {o : Outcome} {found : Option Entry} {k : Consumer}
    (h : s.consumer.claimed o = .ok (found, k)) : s.consumer.Sends k.readCommand := by
  obtain ⟨cursor, rfl⟩ := Consumer.claimed_eq_ok h
  exact .read

theorem Routine.silent (h : Keeps s s') : Routine s s' [] := ⟨h, fun _ hmem => nomatch hmem⟩

theorem Routine.sending (h : Keeps s s') {command : Command}
    (hcommand : s.consumer.Sends command) : Routine s s' [command] := by
  refine ⟨h, fun other hmem => ?_⟩
  rw [List.mem_singleton.mp hmem]
  exact hcommand

end Standing

/-! ## Queues -/

namespace Queue

variable {q q' : Queue}

def standing (q : Queue) : Standing := ⟨q.settings, q.consumer, q.isClosing⟩

theorem goOn_standing (q : Queue) (a : Attempt) : (q.goOn a).standing = q.standing := by
  unfold goOn
  split <;> rfl

theorem lose_standing (q : Queue) (f : Failure) : (q.lose f).standing = q.standing := by
  unfold lose
  split <;> rfl

theorem attemptFailed_standing (q : Queue) (f : Failure) :
    (q.attemptFailed f).standing = q.standing := by
  unfold attemptFailed
  dsimp only
  split
  · exact lose_standing _ f
  · rfl

theorem attemptSucceeded_standing (q : Queue) : q.attemptSucceeded.standing = q.standing := by
  unfold attemptSucceeded
  dsimp only
  split <;> rfl

theorem readerFailed_standing (q : Queue) (f : Failure) :
    (q.readerFailed f).standing = q.standing := lose_standing _ f

theorem entryCame_standing (q : Queue) (r : Reader) (x : Entry) :
    (q.entryCame r x).standing = q.standing := by
  unfold entryCame
  dsimp only
  split <;> rfl

/-- A move sends nothing but what the consumer sends. -/
theorem Moves.routine {m : Move} {e : Effect} (h : q.Moves m e) :
    Standing.Routine q.standing e.1.standing e.2 := by
  cases h with
  | openedOnly | positioned => exact .silent (.of_eq (attemptSucceeded_standing q))
  | openedFirst => exact .silent (.of_eq (goOn_standing q _))
  | openedSecond => exact .sending (.of_eq (goOn_standing q _)) .create
  | created => exact .sending (.of_eq (goOn_standing q _)) (.position _)
  | openFailed | notCreated | notPositioned | timedOut =>
    exact .silent (.of_eq (attemptFailed_standing q _))
  | asked => exact .sending (.refl _) (.claim _)
  | claimFailed | readFailed => exact .silent (.of_eq (readerFailed_standing q _))
  | claimed _ _ answer =>
    exact .silent ((Standing.Keeps.of_claimed answer).trans
      (.of_eq (entryCame_standing _ _ _)))
  | claimedNothing _ _ answer =>
    exact .sending (.of_claimed answer) (Standing.sends_read_of_claimed answer)
  | read => exact .silent (.of_eq (entryCame_standing q _ _))
  | _ => exact .silent (.refl _)

theorem Calls.keeps {c : Call} (h : q.Calls c q') : Standing.Keeps q.standing q'.standing := by
  cases h with
  | publishLost | ackLost => exact .of_eq (lose_standing _ _)
  | closing => exact .told _
  | _ => exact .refl _

end Queue

/-! ## Crews -/

namespace Crew

variable {c : Crew} {who : Nat}

def standing (c : Crew) : Standing := ⟨c.settings, c.consumer, c.isClosing⟩

theorem goOn_standing (c : Crew) (who : Nat) (a : Attempt) :
    (c.goOn who a).standing = c.standing := by
  unfold goOn
  split <;> rfl

theorem lose_standing (c : Crew) (f : Failure) : (c.lose f).standing = c.standing := by
  unfold lose
  split <;> rfl

theorem attemptFailed_standing (c : Crew) (who : Nat) (f : Failure) :
    (c.attemptFailed who f).standing = c.standing := by
  unfold attemptFailed
  dsimp only
  split
  · exact lose_standing _ f
  · rfl

theorem attemptOver_standing (c : Crew) (who : Nat) :
    (c.attemptOver who).standing = c.standing := by
  unfold attemptOver
  split <;> rfl

theorem attemptSucceeded_standing (c : Crew) (who : Nat) :
    (c.attemptSucceeded who).standing = c.standing := by
  have hover := attemptOver_standing (c.measure (.connectionAttempt true)) who
  unfold attemptSucceeded
  dsimp only
  split
  · exact hover
  · split <;> exact hover

theorem readerFailed_standing (c : Crew) (who : Nat) (f : Failure) :
    (c.readerFailed who f).standing = c.standing := lose_standing _ f

theorem entryCame_standing (c : Crew) (who : Nat) (r : ReadingTask) (x : Entry) :
    (c.entryCame who r x).standing = c.standing := by
  unfold entryCame
  dsimp only
  split <;> rfl

/-- A move of a task sends nothing but what the consumer sends. -/
theorem Moves.routine {m : Queue.Move} {e : Effect} (h : c.Moves who m e) :
    Standing.Routine c.standing e.1.standing e.2 := by
  cases h with
  | openedOnly | positioned => exact .silent (.of_eq (attemptSucceeded_standing c who))
  | openedFirst => exact .silent (.of_eq (goOn_standing c who _))
  | openedSecond => exact .sending (.of_eq (goOn_standing c who _)) .create
  | created => exact .sending (.of_eq (goOn_standing c who _)) (.position _)
  | openFailed | notCreated | notPositioned | timedOut =>
    exact .silent (.of_eq (attemptFailed_standing c who _))
  | asked => exact .sending (.refl _) (.claim _)
  | claimFailed | readFailed => exact .silent (.of_eq (readerFailed_standing c who _))
  | claimed _ _ answer =>
    exact .silent ((Standing.Keeps.of_claimed answer).trans
      (.of_eq (entryCame_standing _ who _ _)))
  | claimedNothing _ _ answer =>
    exact .sending (.of_claimed answer) (Standing.sends_read_of_claimed answer)
  | read => exact .silent (.of_eq (entryCame_standing c who _ _))
  | _ => exact .silent (.refl _)

/-- What an act keeps, and what it sends: commands of the consumer, or an append that
publishes a change. -/
theorem sends_act {a : Act} {e : Effect} (hact : c.act a = some e) :
    Standing.Keeps c.standing e.1.standing ∧ ∀ command ∈ e.2, c.consumer.Sends command ∨
      (∃ change now, a = .publish change now) ∧ ∃ key text, command = .append key text := by
  have hroutine (h : Standing.Routine c.standing e.1.standing e.2) :
      Standing.Keeps c.standing e.1.standing ∧ ∀ command ∈ e.2, c.consumer.Sends command ∨
        (∃ change now, a = .publish change now) ∧ ∃ key text, command = .append key text :=
    ⟨h.keeps, fun command hmem => .inl (h.sends command hmem)⟩
  cases act_eq_some_iff.mp hact with
  | move moves => exact hroutine moves.routine
  | @publishing change now _ allowed =>
    refine ⟨.refl _, fun command hmem => .inr ⟨⟨change, now, rfl⟩, ?_⟩⟩
    rw [List.mem_singleton.mp hmem, Queue.publish_eq_ok allowed]
    exact ⟨_, _, rfl⟩
  | acknowledging => exact hroutine (.sending (.refl _) (.acknowledge _))
  | publishLost | ackLost => exact hroutine (.silent (.of_eq (lose_standing _ _)))
  | closing => exact hroutine (.silent (.told _))
  | _ => exact hroutine (.silent (.refl _))

theorem keeps_run {as : List Act} {c' : Crew} (hrun : c.run as = some c') :
    Standing.Keeps c.standing c'.standing := by
  refine foldlM_preserves (P := fun d => Standing.Keeps c.standing d.standing) ?_ (.refl _) hrun
  intro a _ d d' hd hact
  obtain ⟨e, he, rfl⟩ := Option.map_eq_some_iff.mp hact
  exact hd.trans (sends_act he).1

/-- The consumer is that of the settings, whatever has happened, but for where its next claim
starts. -/
theorem Reachable.consumer (h : Reachable c) :
    Consumer.ofSettings c.settings = .ok { c.consumer with cursor := "0-0" } := by
  induction h with
  | @fresh s q created =>
    obtain ⟨consumer, limit, hconsumer, rfl⟩ := Queue.eq_of_create created
    obtain ⟨ackWait, blockTimeout, -, -, rfl⟩ := Consumer.eq_of_ofSettings hconsumer
    exact hconsumer
  | @act c a e _ happens ih =>
    obtain ⟨hsettings, ⟨cursor, hconsumer⟩, -⟩ := (sends_act happens).1
    have hsettings : e.1.settings = c.settings := hsettings
    have hconsumer : e.1.consumer = { c.consumer with cursor := cursor } := hconsumer
    rw [hsettings, ih, hconsumer]

end Crew
end CatalogReplica
