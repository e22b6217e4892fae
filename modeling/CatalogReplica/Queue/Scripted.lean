/-
# CatalogReplica.Queue.Scripted -- a queue beside a scripted log service

A queue and a log service that answers from a script. Between two calls the
tasks make all the moves they can, in a fixed order: what ends comes first, then
events move on, then connections are made, and only then something new is asked
of the service. A read without an answer in the script waits for one.

The service may also be unreachable; then every attempt to connect takes too
long, and the time of the next one does not come.
-/
import CatalogReplica.Queue.Calls
import CatalogReplica.ScriptedService

namespace CatalogReplica

/-- A queue and its scripted service. -/
structure ScriptedQueue where
  queue : Queue
  service : ScriptedService
  isReachable : Bool
  /-- The answer to the command under way on the connection for reading; there
  is none yet for a read that waits. -/
  due : Option Answer := none
  /-- Number of entries appended so far. -/
  appended : Nat := 0
  /-- The commands that came on the connection for reading. -/
  readerCommands : List Command := []
  /-- The commands that came on the connection for publishing. -/
  writerCommands : List Command := []

namespace ScriptedQueue

open Queue (Move Effect)

/-! ## The service -/

/-- The answer to a command on the connection for reading. -/
def answerFor (w : ScriptedQueue) (c : Command) : Option Answer × ScriptedService :=
  match w.service.take? c.name with
  | some (a, service) => (some a, service)
  | none =>
    match c with
    | .read .. => (none, w.service)
    | _ => (some (.send (ScriptedService.usual c)), w.service)

/-- A command comes on the connection for reading. -/
def ask (w : ScriptedQueue) (c : Command) : ScriptedQueue :=
  let (due, service) := w.answerFor c
  { w with due := due, service := service, readerCommands := w.readerCommands ++ [c] }

/-- Gives a waiting read its answer, if there is one by now. -/
def wake (w : ScriptedQueue) : ScriptedQueue :=
  match w.due, w.queue.reader with
  | none, some ⟨.reading, _⟩ =>
    match w.service.take? w.queue.consumer.readCommand.name with
    | some (a, service) => { w with due := some a, service := service }
    | none => w
  | _, _ => w

/-- What becomes of the command under way, as far as it is known. -/
def outcome? (w : ScriptedQueue) : Option Outcome :=
  match w.due with
  | none | some .hang => none
  | some a => some a.outcome

/-! ## Moves -/

/-- The moves that depend on the service. -/
def serviceMoves (w : ScriptedQueue) : List Move :=
  match w.outcome? with
  | some o => [.prepared o, .claimAnswered o, .readAnswered o]
  | none => []

/-- Whether the attempt that is under way waits for something that does not
come. -/
def isStuck (w : ScriptedQueue) : Bool :=
  !w.isReachable || (match w.queue.attempt?, w.due with
    | some (.creating _), some .hang | some (.positioning _), some .hang => true
    | _, _ => false)

/-- The moves in the order in which they are tried. -/
def moves (w : ScriptedQueue) : List Move :=
  [.recoveryStopped, .readerStopped, .forwarderStopped, .recoveryBegan, .recoveryScheduled 1,
    .forwarderPut, .forwarderTook, .handedOn] ++
  (if w.isStuck then [.attemptTimedOut] else [.opened]) ++
  w.serviceMoves ++ [.readerAsked] ++
  (if w.isReachable then [.attemptBegan] else [])

/-- The first move that is enabled. -/
def firstMove (w : ScriptedQueue) : Option Effect :=
  w.moves.findSome? w.queue.move

/-- Makes moves until none is enabled. -/
def settleFor : Nat → ScriptedQueue → ScriptedQueue
  | 0, w => w
  | fuel + 1, w =>
    let w := w.wake
    match w.firstMove with
    | none => w
    | some (q, sent) => settleFor fuel (sent.foldl ask { w with queue := q })

/-- A number of moves that is enough for every answer in the script. -/
def patience (w : ScriptedQueue) : Nat :=
  32 * (2 + w.service.answers.foldl (fun n (_, as) => n + as.length) 0)

/-- Makes moves until none is enabled. -/
def settle (w : ScriptedQueue) : ScriptedQueue := w.settleFor w.patience

/-! ## Calls -/

/-- Creates a queue and lets it connect. -/
def create (s : QueueSettings) (service : ScriptedService) (isReachable : Bool) :
    Except Failure ScriptedQueue := do
  let q ← Queue.create s
  .ok (ScriptedQueue.mk q service isReachable none 0 [] []).settle

/-- Adds answers to the script. -/
def addAnswers (w : ScriptedQueue) (name : String) (as : List Answer) : ScriptedQueue :=
  { w with service := w.service.add name as }.settle

/-- A command comes on the connection for publishing. Entries are numbered
where the script has no answer. -/
def serve (w : ScriptedQueue) (c : Command) : Answer × ScriptedQueue :=
  let appended := match c with
    | .append .. => w.appended + 1
    | _ => w.appended
  let usual := match c with
    | .append .. => Message.ofString (Command.numeral appended ++ "-0")
    | _ => ScriptedService.usual c
  let (answer, service) := (w.service.take? c.name).getD (.send usual, w.service)
  (answer, { w with
    service := service
    appended := appended
    writerCommands := w.writerCommands ++ [c] })

/-- Sends what was begun and takes the outcomes, one after another. When the
connection breaks, nothing behind reaches the service. -/
def publishBegun (w : ScriptedQueue) (isBroken : Bool) :
    List (Except Failure Command) → List (Except Failure EntryId) × ScriptedQueue
  | [] => ([], w)
  | .error f :: rest =>
    let (results, w) := publishBegun w isBroken rest
    (.error f :: results, w)
  | .ok c :: rest =>
    let (o, breaks, w) :=
      if isBroken then (Answer.outcome .drop, true, w)
      else
        let (answer, w) := w.serve c
        (answer.outcome, match answer with
          | .drop | .hang => true
          | _ => false, w)
    let (result, queue) := w.queue.publishAnswered o
    let (results, w) := publishBegun { w with queue := queue } breaks rest
    (result :: results, w)

/-- Publishes changes, all of which are sent before the first is answered. -/
def publishAll (w : ScriptedQueue) (cs : List Change) (now : Timestamp) :
    List (Except Failure EntryId) × ScriptedQueue :=
  let (results, w) := w.publishBegun false (cs.map fun c => w.queue.publish c now)
  (results, w.settle)

/-- Acknowledges an event. -/
def acknowledge (w : ScriptedQueue) (id : EntryId) : Except Failure Unit × ScriptedQueue :=
  match w.queue.acknowledge id with
  | .error f => (.error f, w)
  | .ok c =>
    let (answer, w) := w.serve c
    let (result, queue) := w.queue.ackAnswered answer.outcome
    (result, { w with queue := queue }.settle)

/-- Receives the next event. -/
def receive (w : ScriptedQueue) : Received Event × ScriptedQueue :=
  let (received, queue) := w.queue.receive
  (received, { w with queue := queue }.settle)

/-- Closes the queue. -/
def close (w : ScriptedQueue) : Except Failure Unit × ScriptedQueue :=
  match w.queue.beginClose with
  | none => (.ok (), w)
  | some q =>
    let w := { w with queue := q }.settle
    match w.queue.finishClose with
    | some (result, q) => (result, { w with queue := q })
    | none => (.ok (), w)

/-- Lets go of the queue. -/
def release (w : ScriptedQueue) : ScriptedQueue :=
  { w with queue := w.queue.release }.settle

/-- Forgets the commands that have been looked at. -/
def looked (w : ScriptedQueue) : ScriptedQueue :=
  { w with readerCommands := [], writerCommands := [] }

end ScriptedQueue
end CatalogReplica
