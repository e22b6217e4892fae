/-
# CatalogReplica.Proofs.Queue.Handles -- who waits for the tasks of a crew

Whoever closes a queue waits for the end of its tasks, and of a task it knows the handle
only. The handles are in four places, and tasks move them from one to another while the
queue is being closed:

* `handles`, which the queue keeps: of the forwarder, of every recovery, and of a reader
  that another one took the place of. The start of a recovery drops those of tasks that
  have ended. Nothing is put there any more once the queue is closing;
* the slot, for the reader that was started last;
* a recovery that took the reader out of the slot waits for it;
* `awaited`, what the call that closes the queue has taken and not yet waited for.

Closing looks into the first two places again and again until they are empty. Nothing in
what it does says that all tasks have ended then: `Kept` is why they have. Every task that
has not ended has its handle in one of the four places, and a recovery that waits for a
reader has not ended itself.
-/
import CatalogReplica.Proofs.Queue.Closed

namespace CatalogReplica

/-- A task that was started, as whoever waits for its end knows it. -/
inductive Crew.Handle where
  | forwarder
  | reader (number : Nat)
  | recovery (number : Nat)
  deriving DecidableEq

/-- A crew, and the handles of its tasks. -/
structure Supervised where
  crew : Crew
  /-- The numbers of the recoveries, in the order in which the crew has them. -/
  numbers : List Nat
  /-- How many recoveries were started. -/
  recovered : Nat
  handles : List Crew.Handle
  /-- What the call that closes the queue has yet to wait for, until it returns. -/
  awaited : Option (List Crew.Handle)
  /-- What became of tasks that did not end by themselves. -/
  failures : List Failure

namespace Supervised

open Crew (Handle Act Turn Relieved RecoveryTask)

/-! ## Waiting for tasks -/

/-- The recoveries with their numbers. -/
def recoveries (s : Supervised) : List (Nat × RecoveryTask) := s.numbers.zip s.crew.recoveries

/-- Whether a task has ended. One that has given up has. -/
def isFinished (s : Supervised) : Handle → Bool
  | .forwarder => s.crew.forwarder.isNone
  | .reader n => s.crew.isOver n
  | .recovery n => s.recoveries.all fun x => x.1 ≠ n || x.2 = .broken

/-- What one learns of a task that has ended. -/
def failuresOf (s : Supervised) : Handle → List Failure
  | .recovery n => (s.recoveries.filter (· = (n, RecoveryTask.broken))).map fun _ =>
    .internal (.taskFailed "the next attempt to connect cannot be scheduled")
  | _ => []

/-- A recovery was started, and with it the handles of tasks that have ended are dropped. -/
def spawned (s : Supervised) (c : Crew) : Supervised :=
  { s with
    crew := c
    numbers := s.numbers ++ [s.recovered]
    recovered := s.recovered + 1
    handles := s.handles.filter (!s.isFinished ·) ++ [.recovery s.recovered]
    failures := s.failures ++ (s.handles.filter s.isFinished).flatMap s.failuresOf }

/-- Tasks went on, or ended. If a reader was started, the handle that was in the slot is
kept with the others. -/
def moved (s : Supervised) (who : Nat) (c : Crew) : Supervised :=
  { s with
    crew := c
    numbers :=
      if c.recoveries.length < s.crew.recoveries.length then s.numbers.eraseIdx who else s.numbers
    handles :=
      s.handles ++ if s.crew.started < c.started then s.crew.slot.toList.map .reader else [] }

/-- What becomes of the handles when the crew has made a step. -/
def follow (s : Supervised) (who : Nat) (c : Crew) : Supervised :=
  if s.crew.recoveries.length < c.recoveries.length then s.spawned c else s.moved who c

/-! ## Closing -/

/-- Takes all handles that the queue keeps, and the one in the slot. -/
def taken (s : Supervised) (c : Crew) : Supervised :=
  { s with
    crew := { c with slot := none }
    handles := []
    awaited := some (s.handles ++ s.crew.slot.toList.map .reader) }

/-- Tells the tasks to end, and takes their handles. -/
def beginClose (s : Supervised) : Option Supervised := s.crew.beginClose.map fun e => s.taken e.1

/-- The first task that is waited for has ended. -/
def joined (s : Supervised) : Option Supervised :=
  match s.awaited with
  | some (x :: rest) =>
    if s.isFinished x then
      some { s with awaited := some rest, failures := s.failures ++ s.failuresOf x }
    else none
  | _ => none

/-- Nothing more is waited for, and handles that have come since are taken. -/
def drained (s : Supervised) : Option Supervised :=
  if s.awaited = some [] ∧ ¬ (s.handles = [] ∧ s.crew.slot = none) then some (s.taken s.crew)
  else none

/-- Nothing more is waited for, and no handle has come since: the connection is dropped,
and the queue is closed. Recoveries that gave up are forgotten. -/
def finishClose (s : Supervised) : Option (Except Failure Unit × Supervised) :=
  if s.awaited = some [] ∧ s.handles = [] ∧ s.crew.slot = none then
    let failed := s.crew.recoveries.filter (· = RecoveryTask.broken)
    let c := { s.crew with
      notices := s.crew.notices ++ failed.map fun _ => Notice.taskFailedAtClose
      isConnected := false
      recoveries := s.crew.recoveries.filter (· ≠ RecoveryTask.broken) }.enter .closed
    let rest := (s.recoveries.filter (·.2 ≠ .broken)).map Prod.fst
    let s' := { s with crew := c, numbers := rest, awaited := none, failures := [] }
    if s.failures.isEmpty then some (.ok (), s')
    else some (.error (.close s.failures), { s' with crew := c.notify .closedWithErrors })
  else none

/-! ## All steps -/

/-- A step of the crew, or of the call that closes the queue. -/
inductive Deed where
  | act (a : Act)
  | joined
  | drained

/-- The state after a deed, if it is possible, and the commands that were sent. -/
def deed (s : Supervised) : Deed → Option (Supervised × List Command)
  | .act .beginClose => s.beginClose.map (·, [])
  | .act .finishClose => s.finishClose.map fun x => (x.2, [])
  | .act a => (s.crew.act a).map fun e => (s.follow a.doer e.1, e.2)
  | .joined => s.joined.map (·, [])
  | .drained => s.drained.map (·, [])

/-- Deeds one after another. -/
def run (s : Supervised) (ds : List Deed) : Option Supervised :=
  ds.foldlM (fun s d => (s.deed d).map Prod.fst) s

/-- A queue that was just created has started the forwarder, if it has one. -/
def fresh (q : Queue) : Supervised where
  crew := Crew.fresh q
  numbers := []
  recovered := 0
  handles := q.forwarder.toList.map fun _ => .forwarder
  awaited := none
  failures := []

/-- What can be reached from a queue that was just created with any settings. -/
inductive Reachable : Supervised → Prop where
  | fresh {s : QueueSettings} {q : Queue} (created : Queue.create s = .ok q) :
      Reachable (fresh q)
  | deed {s : Supervised} {d : Deed} {e : Supervised × List Command} (reached : Reachable s)
      (happens : s.deed d = some e) : Reachable e.1

/-! ## Custody -/

/-- The handles that somebody waits for, or will wait for. -/
def watched (s : Supervised) : List Handle := s.handles ++ s.awaited.getD []

/-- The reader is in the slot, or a recovery waits for it. -/
def Holds (s : Supervised) (n : Nat) : Prop :=
  s.crew.slot = some n ∨ .joining (some n) ∈ s.crew.recoveries

/-- The recovery of this number is that far. -/
def Runs (s : Supervised) (n : Nat) (r : RecoveryTask) : Prop :=
  ∃ i : Nat, s.numbers[i]? = some n ∧ s.crew.recoveries[i]? = some r

/-- No task is out of sight. -/
structure Kept (s : Supervised) : Prop where
  numbered : s.numbers.length = s.crew.recoveries.length
  /-- A task that has not ended is one that somebody waits for, or will wait for. -/
  kept : ∀ x, s.isFinished x = false → x ∈ s.watched ∨ ∃ n, x = .reader n ∧ s.Holds n
  /-- Of a recovery that gave up this is known, or will be. -/
  counted : ∀ n, s.Runs n .broken → .recovery n ∈ s.watched ∨ s.failures ≠ []
  failed : s.failures ≠ [] → .broken ∈ s.crew.recoveries
  closing : s.crew.isClosing = true → s.crew.slot = none
  awaiting : s.awaited.isSome → s.crew.isClosing = true ∧ s.crew.state ≠ .closed

variable {s : Supervised} {c : Crew} {who n : Nat} {x : Handle}

theorem mem_recoveries {r : RecoveryTask} : (n, r) ∈ s.recoveries ↔ s.Runs n r := by
  rw [recoveries, List.mem_iff_getElem?]
  exact exists_congr fun i : Nat => List.getElem?_zip_eq_some

theorem unfinished_forwarder :
    s.isFinished .forwarder = false ↔ s.crew.forwarder.isSome = true := by
  simp [isFinished]

theorem unfinished_reader :
    s.isFinished (.reader n) = false ↔ n ∈ s.crew.cells.team := by
  rw [isFinished, ← Bool.not_eq_true, Crew.isOver_iff, not_not]

theorem unfinished_recovery :
    s.isFinished (.recovery n) = false ↔ ∃ r, s.Runs n r ∧ r ≠ .broken := by
  simp only [isFinished, ← Bool.not_eq_true, List.all_eq_true, not_forall, Bool.or_eq_true,
    decide_eq_true_eq, not_or, not_not, Prod.exists, exists_prop]
  constructor
  · rintro ⟨m, r, hmem, rfl, hbroken⟩
    exact ⟨r, mem_recoveries.mp hmem, hbroken⟩
  · rintro ⟨r, hruns, hbroken⟩
    exact ⟨n, r, mem_recoveries.mpr hruns, rfl, hbroken⟩

/-- When the crew is idle, there is nothing to wait for. -/
theorem finished_of_idle (hunread : s.crew.readers = []) (hunforwarded : s.crew.forwarder = none)
    (hbroken : ∀ r ∈ s.crew.recoveries, r = .broken) (x : Handle) : s.isFinished x = true := by
  by_contra hx
  have hx : s.isFinished x = false := Bool.not_eq_true _ ▸ hx
  cases x with
  | forwarder =>
    rw [unfinished_forwarder, hunforwarded] at hx
    cases hx
  | reader n =>
    rw [unfinished_reader, Crew.team_cells, hunread] at hx
    cases hx
  | recovery n =>
    obtain ⟨r, ⟨i, -, hr⟩, hunbroken⟩ := unfinished_recovery.mp hx
    exact hunbroken (hbroken r (List.mem_of_getElem? hr))

/-- All tasks of a crew that was closed have ended. -/
theorem finished_of_closed (h : s.crew.IsClosed) (x : Handle) : s.isFinished x = true := by
  refine finished_of_idle h.unread h.unforwarded ?_ x
  rw [h.unrecovered]
  exact fun r hr => absurd hr List.not_mem_nil

theorem failuresOf_ne_nil (h : s.Runs n .broken) : s.failuresOf (.recovery n) ≠ [] := by
  have hmem : (n, .broken) ∈ s.recoveries.filter (· = (n, .broken)) :=
    List.mem_filter.mpr ⟨mem_recoveries.mpr h, decide_eq_true rfl⟩
  exact List.ne_nil_of_mem (List.mem_map_of_mem hmem)

theorem broken_of_failuresOf {f : Failure} (h : f ∈ s.failuresOf x) :
    .broken ∈ s.crew.recoveries := by
  cases x with
  | forwarder => cases h
  | reader n => cases h
  | recovery n =>
    obtain ⟨y, hy, -⟩ := List.mem_map.mp h
    obtain ⟨hmem, heq⟩ := List.mem_filter.mp hy
    rw [of_decide_eq_true heq] at hmem
    exact (List.of_mem_zip hmem).2

/-- Every recovery has a number. -/
theorem Kept.runs_of_mem (h : Kept s) {r : RecoveryTask} (hr : r ∈ s.crew.recoveries) :
    ∃ n, s.Runs n r := by
  obtain ⟨i, hi⟩ := List.mem_iff_getElem?.mp hr
  have hlt : i < s.numbers.length := by
    rw [h.numbered]
    exact (List.getElem?_eq_some_iff.mp hi).1
  exact ⟨s.numbers[i], i, List.getElem?_eq_getElem hlt, hi⟩

/-! ## Steps of the crew -/

@[simp]
theorem follow_crew : (s.follow who c).crew = c := by
  unfold follow
  split <;> rfl

@[simp]
theorem follow_awaited : (s.follow who c).awaited = s.awaited := by
  unfold follow
  split <;> rfl

/-- No recovery was started, and at most one has ended. -/
theorem relieved_follow (hnumbered : s.numbers.length = s.crew.recoveries.length)
    (h : Relieved s.crew.cells who c.cells) :
    s.follow who c = s.moved who c ∧
      (s.moved who c).numbers.length = c.recoveries.length ∧
      ∀ n r, (s.moved who c).Runs n r → s.Runs n r := by
  rcases h with hsame | ⟨r, hr, -, hended⟩
  · have hsame : c.recoveries = s.crew.recoveries := hsame
    have hnumbers : (s.moved who c).numbers = s.numbers :=
      if_neg (by rw [hsame]; exact Nat.lt_irrefl _)
    refine ⟨if_neg (by rw [hsame]; exact Nat.lt_irrefl _), ?_, ?_⟩
    · rw [hnumbers, hnumbered, hsame]
    · rintro n r ⟨i, hn, hr⟩
      rw [hnumbers] at hn
      exact ⟨i, hn, hsame ▸ hr⟩
  · -- the number is dropped with the recovery, so the others keep theirs
    have hended : c.recoveries = s.crew.recoveries.eraseIdx who := hended
    have hwho : who < s.crew.recoveries.length := (List.getElem?_eq_some_iff.mp hr).1
    have hlength : c.recoveries.length + 1 = s.crew.recoveries.length := by
      rw [hended, List.length_eraseIdx_of_lt hwho]
      omega
    have hnumbers : (s.moved who c).numbers = s.numbers.eraseIdx who := if_pos (by omega)
    refine ⟨if_neg (by omega), ?_, ?_⟩
    · rw [hnumbers, List.length_eraseIdx_of_lt (by omega)]
      omega
    · rintro n r ⟨i, hn, hr⟩
      have hr : c.recoveries[i]? = some r := hr
      rw [hnumbers, List.getElem?_eraseIdx] at hn
      rw [hended, List.getElem?_eraseIdx] at hr
      split at hn
      case isTrue hi =>
        rw [if_pos hi] at hr
        exact ⟨i, hn, hr⟩
      case isFalse hi =>
        rw [if_neg hi] at hr
        exact ⟨i + 1, hn, hr⟩

/-- One of the recoveries has gone on. -/
theorem set_follow (hnumbered : s.numbers.length = s.crew.recoveries.length) {r r' : RecoveryTask}
    (hr : s.crew.recoveries[who]? = some r) (h : c.recoveries = s.crew.recoveries.set who r') :
    s.follow who c = s.moved who c ∧
      (s.moved who c).numbers.length = c.recoveries.length ∧
      ∀ n x, (s.moved who c).Runs n x → s.Runs n x ∨ s.Runs n r := by
  have hlength : c.recoveries.length = s.crew.recoveries.length := by rw [h, List.length_set]
  have hnumbers : (s.moved who c).numbers = s.numbers := if_neg (by omega)
  refine ⟨if_neg (by omega), by rw [hnumbers]; omega, ?_⟩
  rintro n x ⟨i, hn, hx⟩
  have hx : c.recoveries[i]? = some x := hx
  rw [hnumbers] at hn
  rw [h, List.getElem?_set] at hx
  split at hx
  case isTrue hi =>
    subst hi
    exact .inr ⟨who, hn, hr⟩
  case isFalse => exact .inl ⟨i, hn, hx⟩

/-- A recovery was started. -/
theorem spawned_follow (who : Nat) (hnumbered : s.numbers.length = s.crew.recoveries.length)
    {r : RecoveryTask} (h : c.recoveries = s.crew.recoveries ++ [r]) :
    s.follow who c = s.spawned c ∧
      (s.spawned c).numbers.length = c.recoveries.length ∧
      ∀ n x, (s.spawned c).Runs n x → s.Runs n x ∨ n = s.recovered ∧ x = r := by
  have hlength : c.recoveries.length = s.crew.recoveries.length + 1 := by
    rw [h, List.length_append]
    rfl
  refine ⟨if_pos (by omega), ?_, ?_⟩
  · show (s.numbers ++ [s.recovered]).length = c.recoveries.length
    rw [List.length_append, hlength, hnumbered]
    rfl
  · rintro n x ⟨i, hn, hx⟩
    have hn : (s.numbers ++ [s.recovered])[i]? = some n := hn
    have hx : c.recoveries[i]? = some x := hx
    rw [h] at hx
    by_cases hi : i < s.numbers.length
    · rw [List.getElem?_append_left hi] at hn
      rw [List.getElem?_append_left (hnumbered ▸ hi)] at hx
      exact .inl ⟨i, hn, hx⟩
    · rw [List.getElem?_append_right (by omega), List.getElem?_singleton] at hn
      rw [List.getElem?_append_right (by omega), List.getElem?_singleton] at hx
      split at hn <;> cases hn
      split at hx <;> cases hx
      exact .inr ⟨rfl, rfl⟩

/-- A recovery is as far as it was, or it went on without having given up, or it has just
been started. -/
theorem runs_follow (hnumbered : s.numbers.length = s.crew.recoveries.length)
    (hturn : Turn s.crew.cells who c.cells) :
    (s.follow who c).numbers.length = c.recoveries.length ∧
      ∀ n r, (s.follow who c).Runs n r →
        s.Runs n r ∨ (∃ r₀, s.Runs n r₀ ∧ r₀ ≠ .broken) ∨
          r ≠ .broken ∧ .recovery n ∈ (s.follow who c).handles := by
  cases hturn with
  | rests quiet recoveries =>
    obtain ⟨heq, hlength, hruns⟩ := relieved_follow hnumbered recoveries
    rw [heq]
    exact ⟨hlength, fun n r hr => .inl (hruns n r hr)⟩
  | links recoveries =>
    obtain ⟨heq, hlength, hruns⟩ := relieved_follow hnumbered recoveries
    rw [heq]
    exact ⟨hlength, fun n r hr => .inl (hruns n r hr)⟩
  | loses quiet recoveries =>
    obtain ⟨heq, hlength, hruns⟩ := spawned_follow who hnumbered recoveries
    rw [heq]
    refine ⟨hlength, fun n r hr => ?_⟩
    rcases hruns n r hr with hr | ⟨rfl, rfl⟩
    · exact .inl hr
    · exact .inr (.inr ⟨nofun, List.mem_append_right _ List.mem_cons_self⟩)
  | goesOn quiet r r' before unbroken ended recoveries =>
    obtain ⟨heq, hlength, hruns⟩ := set_follow hnumbered before recoveries
    rw [heq]
    exact ⟨hlength, fun n x hx => (hruns n x hx).imp_right fun hr => .inl ⟨r, hr, unbroken⟩⟩
  | begins before team slot started isClosing state recoveries =>
    obtain ⟨heq, hlength, hruns⟩ := set_follow hnumbered before recoveries
    rw [heq]
    exact ⟨hlength, fun n x hx => (hruns n x hx).imp_right fun hr => .inl ⟨.started, hr, nofun⟩⟩

/-- Only handles of tasks that have ended are dropped. -/
theorem watched_follow (hx : x ∈ s.watched) (hunfinished : s.isFinished x = false) :
    x ∈ (s.follow who c).watched := by
  rw [watched, follow_awaited]
  rcases List.mem_append.mp hx with hx | hx
  · refine List.mem_append_left _ ?_
    unfold follow
    split
    · refine List.mem_append_left _ (List.mem_filter.mpr ⟨hx, ?_⟩)
      simp [hunfinished]
    · exact List.mem_append_left _ hx
  · exact List.mem_append_right _ hx

theorem failures_follow (h : s.failures ≠ []) : (s.follow who c).failures ≠ [] := by
  unfold follow
  split
  · exact fun hnil => h (List.append_eq_nil_iff.mp hnil).1
  · exact h

/-- If the handle of a recovery that gave up is dropped, this is noted. -/
theorem counted_follow (hx : .recovery n ∈ s.watched) (hbroken : s.Runs n .broken) :
    .recovery n ∈ (s.follow who c).watched ∨ (s.follow who c).failures ≠ [] := by
  cases hfinished : s.isFinished (.recovery n) with
  | false => exact .inl (watched_follow hx hfinished)
  | true =>
    rw [watched, follow_awaited]
    rcases List.mem_append.mp hx with hx | hx
    · unfold follow
      split
      · right
        intro hnil
        have hfailures := List.flatMap_eq_nil_iff.mp (List.append_eq_nil_iff.mp hnil).2
        exact failuresOf_ne_nil hbroken
          (hfailures _ (List.mem_filter.mpr ⟨hx, hfinished⟩))
      · exact .inl (List.mem_append_left _ (List.mem_append_left _ hx))
    · exact .inl (List.mem_append_right _ hx)

/-- Where one recovery goes on, the others stay as they are. -/
theorem mem_set_of_ne {tasks : List RecoveryTask} {r r' t : RecoveryTask}
    (hr : tasks[who]? = some r) (hne : r ≠ t) (ht : t ∈ tasks) : t ∈ tasks.set who r' := by
  obtain ⟨i, hi⟩ := List.mem_iff_getElem?.mp ht
  have hother : who ≠ i := by
    rintro rfl
    exact hne (Option.some.inj (hr.symm.trans hi))
  exact List.mem_iff_getElem?.mpr ⟨i, (List.getElem?_set_ne hother).trans hi⟩

/-- Only a recovery that waits for nobody, and has not given up, may end. -/
theorem mem_of_relieved {k k' : Crew.Cells} {t : RecoveryTask} (h : Relieved k who k')
    (hbound : ¬ t.IsFree) (ht : t ∈ k.recoveries) : t ∈ k'.recoveries := by
  rcases h with hsame | ⟨r, hr, hfree, hended⟩
  · rwa [hsame]
  · obtain ⟨i, hi⟩ := List.mem_iff_getElem?.mp ht
    rw [hended]
    refine List.mem_eraseIdx_iff_getElem?.mpr ⟨i, ?_, hi⟩
    rintro rfl
    exact hbound (Option.some.inj (hr.symm.trans hi) ▸ hfree)

/-- What has given up stays so. -/
theorem broken_turn {k k' : Crew.Cells} (hturn : Turn k who k') (h : .broken ∈ k.recoveries) :
    .broken ∈ k'.recoveries := by
  have hbound : ¬ RecoveryTask.broken.IsFree := by
    rintro (hfree | ⟨a, hfree⟩) <;> cases hfree
  cases hturn with
  | rests quiet recoveries => exact mem_of_relieved recoveries hbound h
  | links recoveries => exact mem_of_relieved recoveries hbound h
  | loses quiet recoveries =>
    rw [recoveries]
    exact List.mem_append_left _ h
  | goesOn quiet r r' before unbroken ended recoveries =>
    rw [recoveries]
    exact mem_set_of_ne before unbroken h
  | begins before team slot started isClosing state recoveries =>
    rw [recoveries]
    exact mem_set_of_ne before nofun h

theorem failed_follow (h : Kept s) (hturn : Turn s.crew.cells who c.cells)
    (hfailures : (s.follow who c).failures ≠ []) : .broken ∈ c.recoveries := by
  refine broken_turn hturn ?_
  show .broken ∈ s.crew.recoveries
  by_cases hold : s.failures = []
  · -- what was noted now is what a handle that was dropped has told
    unfold follow at hfailures
    split at hfailures
    · have hnew : (s.handles.filter s.isFinished).flatMap s.failuresOf ≠ [] := by
        intro hnil
        exact hfailures (List.append_eq_nil_iff.mpr ⟨hold, hnil⟩)
      obtain ⟨f, hf⟩ := List.exists_mem_of_ne_nil _ hnew
      obtain ⟨x, -, hf⟩ := List.mem_flatMap.mp hf
      exact broken_of_failuresOf hf
    · exact absurd hold hfailures
  · exact h.failed hold

/-- A reader that has not ended is a former one, or in the slot. -/
theorem team_turn (hturn : Turn s.crew.cells who c.cells) (hn : n ∈ c.cells.team) :
    n ∈ s.crew.cells.team ∨ c.slot = some n := by
  cases hturn with
  | rests quiet => exact .inl (quiet.team hn)
  | loses quiet => exact .inl (quiet.team hn)
  | goesOn quiet => exact .inl (quiet.team hn)
  | begins before team => exact .inl (team ▸ hn)
  | links recoveries team slot =>
    rw [team] at hn
    rcases List.mem_append.mp hn with hold | hnew
    · exact .inl hold
    · rw [List.mem_singleton.mp hnew]
      exact .inr slot

/-- Whoever had a reader that has not ended has it still, or has passed it on. -/
theorem holds_follow (hnumbered : s.numbers.length = s.crew.recoveries.length)
    (hturn : Turn s.crew.cells who c.cells) (hn : n ∈ s.crew.cells.team) (h : s.Holds n) :
    (s.follow who c).Holds n ∨ .reader n ∈ (s.follow who c).handles := by
  have hslot : c.cells.slot = s.crew.cells.slot → s.crew.slot = some n →
      (s.follow who c).Holds n := fun hsame hslot => by
    left
    rw [follow_crew]
    exact hsame.trans hslot
  have hjoins : .joining (some n) ∈ c.cells.recoveries → (s.follow who c).Holds n := fun hmem => by
    right
    rw [follow_crew]
    exact hmem
  have hbound : ¬ (RecoveryTask.joining (some n)).IsFree := by
    rintro (hfree | ⟨a, hfree⟩) <;> cases hfree
  cases hturn with
  | rests quiet recoveries =>
    exact .inl (h.elim (hslot quiet.slot) fun ht => hjoins (mem_of_relieved recoveries hbound ht))
  | loses quiet recoveries =>
    refine .inl (h.elim (hslot quiet.slot) fun ht => hjoins ?_)
    rw [recoveries]
    exact List.mem_append_left _ ht
  | goesOn quiet r r' before unbroken ended recoveries =>
    refine .inl (h.elim (hslot quiet.slot) fun ht => hjoins ?_)
    rw [recoveries]
    exact mem_set_of_ne before (fun hr => ended n hr hn) ht
  | begins before team slot started isClosing state recoveries =>
    refine .inl (hjoins ?_)
    rw [recoveries]
    rcases h with hslot | ht
    · -- what was in the slot is what the recovery waits for now
      rw [show s.crew.cells.slot = some n from hslot]
      exact List.mem_set (List.getElem?_eq_some_iff.mp before).1 _
    · exact mem_set_of_ne before nofun ht
  | links recoveries team slot started =>
    rcases h with hslot | ht
    · -- the handle in the slot makes room for that of the new reader
      right
      rw [(relieved_follow hnumbered recoveries).1]
      refine List.mem_append_right _ ?_
      have hstarted : s.crew.started < c.started := by
        have hnext : c.started = s.crew.started + 1 := started
        omega
      rw [if_pos hstarted, hslot]
      exact List.mem_cons_self
    · exact .inl (hjoins (mem_of_relieved recoveries hbound ht))

theorem isClosing_turn (hturn : Turn s.crew.cells who c.cells) :
    c.isClosing = s.crew.isClosing ∧ (s.crew.state ≠ .closed → c.state ≠ .closed) ∧
      (c.isClosing = true → s.crew.slot = none → c.slot = none) := by
  cases hturn with
  | rests quiet => exact ⟨quiet.isClosing, quiet.unclosed, fun _ => quiet.slot.trans⟩
  | loses quiet => exact ⟨quiet.isClosing, quiet.unclosed, fun _ => quiet.slot.trans⟩
  | goesOn quiet => exact ⟨quiet.isClosing, quiet.unclosed, fun _ => quiet.slot.trans⟩
  | begins before team slot started isClosing state =>
    exact ⟨isClosing, fun h => (show c.state = s.crew.state from state) ▸ h, fun _ _ => slot⟩
  | links recoveries team slot started opened isClosing state =>
    refine ⟨isClosing, fun _ hclosed => ?_, fun hclosing => ?_⟩
    · cases (show c.state = .connected from state).symm.trans hclosed
    · cases (show c.isClosing = false from opened).symm.trans hclosing

/-- No task gets out of sight by a step of the crew. -/
theorem Kept.follow (h : Kept s) (hturn : Turn s.crew.cells who c.cells)
    (hforwarder : c.forwarder.isSome → s.crew.forwarder.isSome) : Kept (s.follow who c) := by
  obtain ⟨hnumbered, hruns⟩ := runs_follow h.numbered hturn
  obtain ⟨hclosing, hunclosed, huntaken⟩ := isClosing_turn hturn
  have hkept : ∀ x, s.isFinished x = false →
      x ∈ (s.follow who c).watched ∨ ∃ n, x = .reader n ∧ s.Holds n := fun x hx =>
    (h.kept x hx).imp_left (watched_follow · hx)
  -- a recovery is not what can be in the slot
  have hrecovery : ∀ n, s.isFinished (.recovery n) = false →
      .recovery n ∈ (s.follow who c).watched := fun n hn =>
    (hkept _ hn).resolve_right (by rintro ⟨m, hm, -⟩; cases hm)
  refine ⟨by rw [follow_crew]; exact hnumbered, ?_, ?_, ?_, ?_, ?_⟩
  · intro x hx
    cases x with
    | forwarder =>
      rw [unfinished_forwarder, follow_crew] at hx
      exact (hkept _ (unfinished_forwarder.mpr (hforwarder hx))).imp_right
        (by rintro ⟨m, hm, -⟩; cases hm)
    | recovery n =>
      obtain ⟨r, hr, hunbroken⟩ := unfinished_recovery.mp hx
      rcases hruns n r hr with hold | hold | ⟨-, hnew⟩
      · exact .inl (hrecovery n (unfinished_recovery.mpr ⟨r, hold, hunbroken⟩))
      · exact .inl (hrecovery n (unfinished_recovery.mpr hold))
      · exact .inl (List.mem_append_left _ hnew)
    | reader n =>
      rw [unfinished_reader, follow_crew] at hx
      rcases team_turn hturn hx with hold | hslot
      · rcases hkept _ (unfinished_reader.mpr hold) with hmem | ⟨m, hm, hholds⟩
        · exact .inl hmem
        · cases hm
          rcases holds_follow h.numbered hturn hold hholds with hholds | hmem
          · exact .inr ⟨n, rfl, hholds⟩
          · exact .inl (List.mem_append_left _ hmem)
      · refine .inr ⟨n, rfl, .inl ?_⟩
        rwa [follow_crew]
  · intro n hn
    rcases hruns n _ hn with hold | hold | ⟨hunbroken, -⟩
    · rcases h.counted n hold with hmem | hfailures
      · exact counted_follow hmem hold
      · exact .inr (failures_follow hfailures)
    -- one that gives up now was at work, so somebody has its handle
    · exact .inl (hrecovery n (unfinished_recovery.mpr hold))
    · exact absurd rfl hunbroken
  · intro hfailures
    rw [follow_crew]
    exact failed_follow h hturn hfailures
  · rw [follow_crew]
    intro hclosed
    exact huntaken hclosed (h.closing (hclosing ▸ hclosed))
  · rw [follow_crew, follow_awaited]
    intro hawaited
    obtain ⟨hclosed, hstate⟩ := h.awaiting hawaited
    exact ⟨hclosing.trans hclosed, hunclosed hstate⟩

/-! ## Closing step by step -/

/-- The handles are awaited by the call that closes the queue, and no longer kept. -/
theorem Kept.taken (h : Kept s) (hrecoveries : c.recoveries = s.crew.recoveries)
    (hreaders : c.readers = s.crew.readers) (hforwarder : c.forwarder = s.crew.forwarder)
    (hawaited : s.awaited.getD [] = []) (hclosing : c.isClosing = true)
    (hunclosed : c.state ≠ .closed) : Kept (s.taken c) := by
  have hruns : ∀ n r, (s.taken c).Runs n r → s.Runs n r := by
    rintro n r ⟨i, hn, hr⟩
    exact ⟨i, hn, hrecoveries ▸ hr⟩
  have hkept : ∀ x ∈ s.watched, x ∈ (s.taken c).watched := by
    intro x hx
    rw [watched, hawaited, List.append_nil] at hx
    exact List.mem_append_right _ (List.mem_append_left _ hx)
  have hunfinished : ∀ x, (s.taken c).isFinished x = false → s.isFinished x = false := by
    intro x hx
    cases x with
    | forwarder => exact unfinished_forwarder.mpr (hforwarder ▸ unfinished_forwarder.mp hx)
    | reader n =>
      rw [unfinished_reader, Crew.team_cells] at hx ⊢
      rwa [← hreaders]
    | recovery n =>
      obtain ⟨r, hr, hunbroken⟩ := unfinished_recovery.mp hx
      exact unfinished_recovery.mpr ⟨r, hruns n r hr, hunbroken⟩
  refine ⟨h.numbered.trans (congrArg List.length hrecoveries.symm), ?_, ?_, ?_, fun _ => rfl,
    fun _ => ⟨hclosing, hunclosed⟩⟩
  · intro x hx
    rcases h.kept x (hunfinished x hx) with hmem | ⟨n, rfl, hslot | hjoining⟩
    · exact .inl (hkept x hmem)
    · -- the slot is emptied into what is awaited
      left
      refine List.mem_append_right _ (List.mem_append_right _ ?_)
      rw [hslot]
      exact List.mem_cons_self
    · exact .inr ⟨n, rfl, .inr (hrecoveries ▸ hjoining)⟩
  · exact fun n hn => (h.counted n (hruns n _ hn)).imp_left (hkept _)
  · exact fun hfailures => hrecoveries ▸ h.failed hfailures

theorem joined_eq_some {s' : Supervised} (hjoined : s.joined = some s') :
    ∃ x rest, s.awaited = some (x :: rest) ∧ s.isFinished x = true ∧
      s' = { s with awaited := some rest, failures := s.failures ++ s.failuresOf x } := by
  unfold joined at hjoined
  split at hjoined
  case h_1 x rest hawaited =>
    split at hjoined <;> cases hjoined
    exact ⟨x, rest, hawaited, ‹_›, rfl⟩
  case h_2 => cases hjoined

/-- A task that has ended need not be waited for. -/
theorem Kept.joined (h : Kept s) {s' : Supervised} (hjoined : s.joined = some s') : Kept s' := by
  obtain ⟨x, rest, hawaited, hfinished, rfl⟩ := joined_eq_some hjoined
  have hkept : ∀ y ∈ s.watched, y = x ∨ y ∈ s.handles ++ rest := by
    intro y hy
    rw [watched, hawaited] at hy
    rcases List.mem_append.mp hy with hy | hy
    · exact .inr (List.mem_append_left _ hy)
    · exact (List.mem_cons.mp hy).imp_right (List.mem_append_right _)
  refine ⟨h.numbered, ?_, ?_, ?_, h.closing, fun _ => h.awaiting (by simp [hawaited])⟩
  · intro y hy
    have hy : s.isFinished y = false := hy
    refine (h.kept y hy).imp_left fun hmem => (hkept y hmem).resolve_left ?_
    rintro rfl
    exact Bool.false_ne_true (hy.symm.trans hfinished)
  · intro n hn
    have hn : s.Runs n .broken := hn
    rcases h.counted n hn with hmem | hfailures
    · rcases hkept _ hmem with rfl | hmem
      -- the end of this task was that it gave up
      · exact .inr fun hnil => failuresOf_ne_nil hn (List.append_eq_nil_iff.mp hnil).2
      · exact .inl hmem
    · exact .inr fun hnil => hfailures (List.append_eq_nil_iff.mp hnil).1
  · intro hfailures
    by_cases hold : s.failures = []
    · obtain ⟨f, hf⟩ := List.exists_mem_of_ne_nil _ hfailures
      rw [hold] at hf
      exact broken_of_failuresOf hf
    · exact h.failed hold

/-- When nothing is waited for any more, all tasks have ended. -/
theorem Kept.idle (h : Kept s) (hawaited : s.awaited = some []) (hhandles : s.handles = [])
    (hslot : s.crew.slot = none) :
    s.crew.readers = [] ∧ s.crew.forwarder = none ∧ (∀ r ∈ s.crew.recoveries, r = .broken) ∧
      (s.failures = [] ↔ s.crew.recoveries = []) := by
  have hkept : s.watched = [] := by
    rw [watched, hhandles, hawaited]
    rfl
  have hbroken : ∀ r ∈ s.crew.recoveries, r = .broken := by
    intro r hr
    obtain ⟨n, hn⟩ := h.runs_of_mem hr
    by_contra hunbroken
    rcases h.kept _ (unfinished_recovery.mpr ⟨r, hn, hunbroken⟩) with hmem | ⟨m, hm, -⟩
    · rw [hkept] at hmem
      cases hmem
    · cases hm
  -- a recovery that waits for a reader has not given up, so there is none
  have hnone : ∀ x, s.isFinished x = false → False := by
    intro x hx
    rcases h.kept x hx with hmem | ⟨n, -, hholds | hjoining⟩
    · rw [hkept] at hmem
      cases hmem
    · cases hslot.symm.trans hholds
    · cases hbroken _ hjoining
  refine ⟨?_, ?_, hbroken, ?_⟩
  · rw [List.eq_nil_iff_forall_not_mem]
    intro r hr
    refine hnone (.reader r.number) (unfinished_reader.mpr ?_)
    rw [Crew.team_cells]
    exact List.mem_map_of_mem hr
  · by_contra hforwarder
    exact hnone .forwarder (unfinished_forwarder.mpr (Option.isSome_iff_ne_none.mpr hforwarder))
  · -- every recovery that is left has given up, and has been waited for
    constructor
    · intro hfailures
      rw [List.eq_nil_iff_forall_not_mem]
      intro r hr
      obtain ⟨n, hn⟩ := h.runs_of_mem hr
      rw [hbroken r hr] at hn
      rcases h.counted n hn with hmem | hnoted
      · rw [hkept] at hmem
        cases hmem
      · exact hnoted hfailures
    · intro hrecoveries
      by_contra hfailures
      have hmem := h.failed hfailures
      rw [hrecoveries] at hmem
      cases hmem

/-- What closing does at its end is what a crew does that waits for all of its tasks. -/
theorem Kept.finishClose_eq (h : Kept s) {result : Except Failure Unit} {s' : Supervised}
    (hfinish : s.finishClose = some (result, s')) :
    s.crew.finishClose = some (s'.crew, []) ∧
      s' = { s with crew := s'.crew, numbers := [], awaited := none, failures := [] } ∧
      s.handles = [] ∧ (result = .ok () ↔ .broken ∉ s.crew.recoveries) := by
  unfold finishClose at hfinish
  split at hfinish
  case isFalse => cases hfinish
  case isTrue hdone =>
    obtain ⟨hawaited, hhandles, hslot⟩ := hdone
    obtain ⟨hreaders, hforwarder, hbroken, hfailures⟩ := h.idle hawaited hhandles hslot
    obtain ⟨hclosing, hunclosed⟩ := h.awaiting (by rw [hawaited]; rfl)
    have hrest : s.crew.recoveries.filter (· ≠ RecoveryTask.broken) = [] :=
      List.filter_eq_nil_iff.mpr fun r hr => by simp [hbroken r hr]
    have hall : s.crew.recoveries.filter (· = RecoveryTask.broken) = s.crew.recoveries :=
      List.filter_eq_self.mpr fun r hr => by simp [hbroken r hr]
    have hnumbers : (s.recoveries.filter (·.2 ≠ RecoveryTask.broken)).map Prod.fst = [] := by
      rw [List.map_eq_nil_iff, List.filter_eq_nil_iff]
      intro x hx
      simp [hbroken x.2 (List.of_mem_zip (a := x.1) (b := x.2) hx).2]
    have hidle : (s.crew.isClosing && decide (s.crew.state ≠ .closed) && s.crew.readers.isEmpty
        && s.crew.forwarder.isNone && s.crew.isRecovered) = true := by
      simpa [hclosing, hunclosed, hreaders, hforwarder, Crew.isRecovered] using hbroken
    rw [Crew.finishClose, if_pos hidle]
    dsimp only at hfinish ⊢
    rw [hrest, hall, hnumbers] at hfinish
    by_cases hgood : s.failures = []
    · have hrecovered : s.crew.recoveries = [] := hfailures.mp hgood
      rw [hgood] at hfinish
      cases hfinish
      rw [hrecovered]
      exact ⟨rfl, rfl, hhandles, iff_of_true rfl List.not_mem_nil⟩
    · have hbad : s.crew.recoveries ≠ [] := fun hnil => hgood (hfailures.mpr hnil)
      rw [if_neg (by simpa using hgood)] at hfinish
      cases hfinish
      rw [if_neg (by simpa using hbad)]
      refine ⟨rfl, rfl, hhandles, iff_of_false ?_ (not_not.mpr (h.failed hgood))⟩
      intro herror
      cases herror

/-! ## All deeds -/

theorem deed_act {a : Act} (hbegin : a ≠ .beginClose) (hfinish : a ≠ .finishClose) :
    s.deed (.act a) = (s.crew.act a).map fun e => (s.follow a.doer e.1, e.2) := by
  cases a with
  | beginClose => exact absurd rfl hbegin
  | finishClose => exact absurd rfl hfinish
  | _ => rfl

/-- A queue is not closed before it was told to close. -/
theorem unclosed_of_open {k : Crew.Cells} (h : Crew.Sound k) (hopen : k.isClosing = false) :
    k.state ≠ .closed := by
  intro hclosed
  cases h.phase with
  | starting _ state => cases state.symm.trans hclosed
  | linked _ state => cases state.symm.trans hclosed
  | recovering r recovering => cases recovering.state.symm.trans hclosed
  | stopped _ state => cases state.symm.trans hclosed
  | closing _ _ closing => cases hopen.symm.trans closing

/-- To close a queue for the first time is to take the handles there are. -/
theorem beginClose_eq_some {s' : Supervised} (hbegin : s.beginClose = some s') :
    s.crew.isOwned = true ∧ s.crew.isClosing = false ∧
      s' = s.taken { s.crew with isClosing := true, slot := none } := by
  unfold beginClose Crew.beginClose at hbegin
  split at hbegin
  case isTrue hopen =>
    cases hbegin
    rw [Bool.and_eq_true, Bool.not_eq_true'] at hopen
    exact ⟨hopen.1, hopen.2, rfl⟩
  case isFalse => cases hbegin

theorem Kept.beginClose (h : Kept s) (hsound : Crew.Sound s.crew.cells) {s' : Supervised}
    (hbegin : s.beginClose = some s') :
    Kept s' ∧ s.crew.beginClose = some (s'.crew, []) := by
  obtain ⟨howned, hopen, rfl⟩ := beginClose_eq_some hbegin
  have hawaited : s.awaited = none := by
    by_contra hsome
    have hclosing := (h.awaiting (Option.isSome_iff_ne_none.mpr hsome)).1
    cases hopen.symm.trans hclosing
  refine ⟨h.taken rfl rfl rfl ?_ rfl (unclosed_of_open hsound hopen), ?_⟩
  · rw [hawaited]
    rfl
  · rw [Crew.beginClose, if_pos (by rw [howned, hopen]; rfl)]
    rfl

/-- Once the queue is closing nothing comes into the slot, so the crew stays as it is. -/
theorem Kept.drained (h : Kept s) {s' : Supervised} (hdrained : s.drained = some s') :
    Kept s' ∧ s'.crew = s.crew := by
  unfold Supervised.drained at hdrained
  split at hdrained
  case isTrue hmore =>
    cases hdrained
    obtain ⟨hclosing, hunclosed⟩ := h.awaiting (by rw [hmore.1]; rfl)
    refine ⟨h.taken rfl rfl rfl (by rw [hmore.1]; rfl) hclosing hunclosed, ?_⟩
    exact congrArg (fun slot => { s.crew with slot := slot }) (h.closing hclosing).symm
  case isFalse => cases hdrained

/-- A queue that is closed has no task. -/
theorem Kept.finishClose (h : Kept s) (hsound : Crew.Sound s.crew.cells)
    {result : Except Failure Unit} {s' : Supervised}
    (hfinish : s.finishClose = some (result, s')) : Kept s' := by
  obtain ⟨hcrew, heq, -⟩ := h.finishClose_eq hfinish
  obtain ⟨⟨hclosed, -⟩, hslot⟩ := Crew.aftermath_finishClose hsound hcrew
  obtain ⟨hawaited, -, htaken⟩ : s.awaited = some [] ∧ s.handles = [] ∧ s.crew.slot = none := by
    unfold Supervised.finishClose at hfinish
    split at hfinish
    · assumption
    · cases hfinish
  refine ⟨?_, ?_, ?_, ?_, fun _ => hslot.trans htaken, ?_⟩
  · rw [hclosed.unrecovered, heq]
    rfl
  · intro x hx
    exact absurd (hx.symm.trans (finished_of_closed hclosed x)) Bool.false_ne_true
  · rintro n ⟨i, -, hr⟩
    rw [hclosed.unrecovered] at hr
    cases hr
  · rw [heq]
    exact fun hnone => absurd rfl hnone
  · rw [heq]
    exact nofun

/-- No deed lets a task get out of sight, and all that a crew does, it may do on its own. -/
theorem Kept.deed (h : Kept s) (hcrew : Crew.Reachable s.crew) {d : Deed}
    {e : Supervised × List Command} (hdeed : s.deed d = some e) :
    Kept e.1 ∧ Crew.Reachable e.1.crew := by
  cases d with
  | joined =>
    obtain ⟨s', hjoined, rfl⟩ := Option.map_eq_some_iff.mp hdeed
    refine ⟨h.joined hjoined, ?_⟩
    obtain ⟨x, rest, -, -, rfl⟩ := joined_eq_some hjoined
    exact hcrew
  | drained =>
    obtain ⟨s', hdrained, rfl⟩ := Option.map_eq_some_iff.mp hdeed
    obtain ⟨hkept, hsame⟩ := h.drained hdrained
    exact ⟨hkept, hsame ▸ hcrew⟩
  | act a =>
    by_cases hbegin : a = .beginClose
    · subst hbegin
      obtain ⟨s', hbegin, rfl⟩ := Option.map_eq_some_iff.mp hdeed
      obtain ⟨hkept, hact⟩ := h.beginClose hcrew.sound hbegin
      exact ⟨hkept, hcrew.act (a := .beginClose) hact⟩
    by_cases hfinish : a = .finishClose
    · subst hfinish
      obtain ⟨⟨result, s'⟩, hfinish, rfl⟩ := Option.map_eq_some_iff.mp hdeed
      obtain ⟨hact, -⟩ := h.finishClose_eq hfinish
      exact ⟨h.finishClose hcrew.sound hfinish, hcrew.act (a := .finishClose) hact⟩
    · rw [deed_act hbegin hfinish] at hdeed
      obtain ⟨e, hact, rfl⟩ := Option.map_eq_some_iff.mp hdeed
      refine ⟨h.follow (Crew.turn_act hact hbegin hfinish) (Crew.forwarder_act hact), ?_⟩
      show Crew.Reachable (s.follow a.doer e.1).crew
      rw [follow_crew]
      exact hcrew.act hact

/-- The forwarder is the only task that there is from the beginning. -/
theorem kept_fresh {settings : QueueSettings} {q : Queue}
    (hcreate : Queue.create settings = .ok q) : Kept (fresh q) := by
  obtain ⟨consumer, limit, -, rfl⟩ := Queue.eq_of_create hcreate
  refine ⟨rfl, ?_, ?_, fun hnone => absurd rfl hnone, nofun, nofun⟩
  · intro x hx
    cases x with
    | forwarder =>
      left
      rw [unfinished_forwarder] at hx
      by_cases hwriteOnly : settings.writeOnly = true
      · simp [fresh, Crew.fresh, hwriteOnly] at hx
      · simp [watched, fresh, hwriteOnly]
    | reader n => cases unfinished_reader.mp hx
    | recovery n =>
      obtain ⟨r, ⟨i, -, hr⟩, -⟩ := unfinished_recovery.mp hx
      cases hr
  · rintro n ⟨i, -, hr⟩
    cases hr

/-- No task is ever out of sight, whatever has happened. -/
theorem Reachable.kept (h : Reachable s) : Kept s ∧ Crew.Reachable s.crew := by
  induction h with
  | fresh created => exact ⟨kept_fresh created, .fresh created⟩
  | deed _ happens ih => exact ih.1.deed ih.2 happens

theorem Reachable.run (h : Reachable s) {ds : List Deed} {s' : Supervised}
    (hrun : s.run ds = some s') : Reachable s' := by
  refine foldlM_preserves ?_ h hrun
  intro d _ t t' ht hdeed
  obtain ⟨e, he, rfl⟩ := Option.map_eq_some_iff.mp hdeed
  exact ht.deed he

end Supervised
end CatalogReplica
