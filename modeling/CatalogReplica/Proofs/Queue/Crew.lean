/-
# CatalogReplica.Proofs.Queue.Crew -- the tasks of a queue, each on its own

A `Queue` has one place for a reader and one for a recovery, and takes a recovery to be
at work whenever a loss has been reported. That this is enough has to be proved. A
*crew* has lists of tasks instead, to which whoever starts a task adds one, and it keeps
apart all that tasks share:

* `state` and `isConnected`, which callers see;
* `isLossReported`, which keeps a second report of a loss from starting a second recovery;
* `slot`, the reader that a recovery, or the end of the queue, would stop and wait for;
* the two channels, and the lock that callers hold while they wait for an event.

A step of a crew is what one task or call does between two waits. The only lock that is
held across a wait is that of the callers; taking any other never waits.

A crew also keeps a record that none of its steps looks at: what was read, by which
reader, which readers were stopped, and which caller received what. Every event carries
the number of its reading.
-/
import CatalogReplica.Proofs.Queue.Success

namespace CatalogReplica

namespace Crew

/-! ## Tasks -/

/-- An event, and the number of the reading that it comes from. -/
structure Numbered where
  number : Nat
  event : Event
  deriving DecidableEq

/-- How far a reader is with the next entry. -/
inductive Stage where
  | between
  | claiming
  | reading
  | offering (n : Numbered)
  deriving DecidableEq

/-- One of the readers. -/
structure ReadingTask where
  /-- How many readers were started before this one. -/
  number : Nat
  stage : Stage
  isStopping : Bool
  deriving DecidableEq

/-- The forwarder. -/
inductive ForwardingTask where
  | waiting
  | holding (n : Numbered)
  deriving DecidableEq

/-- One of the recoveries. -/
inductive RecoveryTask where
  | started
  /-- It waits for the end of the reader that was in the slot, if there was one. -/
  | joining (reader : Option Nat)
  | waiting
  | connecting (a : Attempt)
  | broken
  deriving DecidableEq

/-! ## The record -/

/-- A reader read an entry that could be decoded. -/
structure Reading where
  /-- The number of the reader. -/
  reader : Nat
  event : Event
  deriving DecidableEq

/-- A caller received an event. -/
structure Reception where
  caller : Nat
  item : Numbered
  deriving DecidableEq

end Crew

/-- A queue, taken apart into cells and tasks. -/
structure Crew where
  settings : QueueSettings
  attemptLimit : Span
  consumer : Consumer
  state : LinkState
  isConnected : Bool
  /-- Whether a loss was reported after which no attempt to connect has succeeded. -/
  isLossReported : Bool
  resume : Option EntryId
  firstAttempt : Option Attempt
  recoveries : List Crew.RecoveryTask
  readers : List Crew.ReadingTask
  /-- The number of the reader that was started last, unless somebody waits for its end. -/
  slot : Option Nat
  /-- How many readers were started. -/
  started : Nat
  forwarder : Option Crew.ForwardingTask
  input : Option Crew.Numbered
  output : Option Crew.Numbered
  /-- The callers that wait for an event; the first of them holds the lock. -/
  line : List Nat
  /-- What callers have sent and not yet learned the outcome of. -/
  calls : List Command
  isClosing : Bool
  isReleased : Bool
  measurements : Measurements
  notices : List Notice
  /-- What was read, in the order of reading. -/
  readings : List Crew.Reading
  /-- The readers that ended because they were told to. -/
  stopped : List Nat
  /-- What callers have received, in the order of reception. -/
  received : List Crew.Reception

namespace Crew

/-! ## The queue that a crew makes up -/

/-- The stage of a reader, without the number of the reading. -/
def Stage.plain : Stage → ReaderStage
  | between => .between
  | claiming => .claiming
  | reading => .reading
  | offering n => .offering n.event

def ReadingTask.plain (r : ReadingTask) : Reader := ⟨r.stage.plain, r.isStopping⟩

def ForwardingTask.plain : ForwardingTask → Forwarder
  | waiting => .waiting
  | holding n => .holding n.event

def RecoveryTask.plain : RecoveryTask → Recovery
  | started => .started
  | joining _ => .stoppingReader
  | waiting => .waiting
  | connecting a => .connecting a
  | broken => .broken

/-- The queue that shows the first recovery and the first reader of a crew. -/
def queue (c : Crew) : Queue where
  settings := c.settings
  attemptLimit := c.attemptLimit
  consumer := c.consumer
  state := c.state
  isConnected := c.isConnected
  resume := c.resume
  firstAttempt := c.firstAttempt
  recovery := c.recoveries.head?.map RecoveryTask.plain
  reader := c.readers.head?.map ReadingTask.plain
  forwarder := c.forwarder.map ForwardingTask.plain
  input := c.input.map Numbered.event
  output := c.output.map Numbered.event
  isClosing := c.isClosing
  isReleased := c.isReleased
  measurements := c.measurements
  notices := c.notices

/-- The crew of a queue that was just created. -/
def fresh (q : Queue) : Crew where
  settings := q.settings
  attemptLimit := q.attemptLimit
  consumer := q.consumer
  state := q.state
  isConnected := q.isConnected
  isLossReported := false
  resume := q.resume
  firstAttempt := q.firstAttempt
  recoveries := []
  readers := []
  slot := none
  started := 0
  forwarder := q.forwarder.map fun _ => .waiting
  input := none
  output := none
  line := []
  calls := []
  isClosing := q.isClosing
  isReleased := q.isReleased
  measurements := q.measurements
  notices := q.notices
  readings := []
  stopped := []
  received := []

/-! ## Reading the state -/

/-- Whether the tasks have been told to end. -/
def isEnding (c : Crew) : Bool := c.isClosing || c.isReleased

/-- Whether no recovery is at work. -/
def isRecovered (c : Crew) : Bool := c.recoveries.all (· = .broken)

/-- Whether nobody can reach the queue any more. -/
def isGone (c : Crew) : Bool :=
  c.isReleased && c.readers.isEmpty && c.isRecovered && c.calls.isEmpty

/-- The attempt to connect that is under way: the first one, or that of a recovery. -/
def attempt? (c : Crew) (who : Nat) : Option Attempt :=
  match c.firstAttempt, c.recoveries[who]? with
  | some a, _ => some a
  | none, some (.connecting a) => some a
  | none, _ => none

/-! ## Small changes -/

def measure (c : Crew) (m : Measurement) : Crew :=
  { c with measurements := c.measurements ++ [m] }

def notify (c : Crew) (n : Notice) : Crew := { c with notices := c.notices ++ [n] }

def enter (c : Crew) (s : LinkState) : Crew :=
  { c with state := s }.measure (.queueState s.name)

/-- Puts a reader to a stage. -/
def readerAt (c : Crew) (who : Nat) (r : ReadingTask) (stage : Stage) : Crew :=
  { c with readers := c.readers.set who { r with stage := stage } }

/-- The readers, with the one that is in the slot told to stop. -/
def readersTold (c : Crew) : List ReadingTask :=
  c.readers.map fun r => if c.slot = some r.number then { r with isStopping := true } else r

/-- Goes on with the attempt that is under way. -/
def goOn (c : Crew) (who : Nat) (a : Attempt) : Crew :=
  match c.firstAttempt with
  | some _ => { c with firstAttempt := some a }
  | none => { c with recoveries := c.recoveries.set who (.connecting a) }

/-- A connection was lost: a recovery starts, unless the queue is closing or the loss
has been reported already. -/
def lose (c : Crew) (reason : Failure) : Crew :=
  if c.isClosing || c.isLossReported then c
  else
    { (((c.notify .connectionLost).measure (.connectionLost (Queue.lossLabel reason))).enter
        .reconnecting) with
      isLossReported := true
      recoveries := c.recoveries ++ [.started] }

/-! ## Connecting -/

def attemptFailed (c : Crew) (who : Nat) (f : Failure) : Crew :=
  let c := c.measure (.connectionAttempt false)
  match c.firstAttempt with
  | some _ => ({ c with firstAttempt := none }.notify .firstConnectionFailed).lose f
  | none => { c with recoveries := c.recoveries.set who .waiting }.notify .reconnectFailed

/-- Starts a reader. One that is in the slot is told to stop, but nobody waits for it. -/
def startReader (c : Crew) : Crew :=
  { c with
    readers := c.readersTold ++ [⟨c.started, .between, false⟩]
    slot := some c.started
    started := c.started + 1 }

/-- The attempt is over, and with it the recovery that made it. -/
def attemptOver (c : Crew) (who : Nat) : Crew :=
  match c.firstAttempt with
  | some _ => { c with firstAttempt := none }
  | none => { c with recoveries := c.recoveries.eraseIdx who }

/-- The connection is held, and the loss that was reported is made good. -/
def link (c : Crew) : Crew :=
  { c with isConnected := true, isLossReported := false }.enter .connected

def attemptSucceeded (c : Crew) (who : Nat) : Crew :=
  let c := (c.measure (.connectionAttempt true)).attemptOver who
  if c.isClosing then c
  else if c.settings.writeOnly then c.link
  else c.link.startReader

/-- The crew after a step, and the commands that were sent. -/
abbrev Effect := Crew × List Command

def opened (c : Crew) (who : Nat) : Option Effect :=
  match c.attempt? who with
  | some .opening =>
    if c.settings.writeOnly then some (c.attemptSucceeded who, [])
    else some (c.goOn who .openingReader, [])
  | some .openingReader => some (c.goOn who (.creating c.resume), [c.consumer.createCommand])
  | _ => none

def openFailed (c : Crew) (who : Nat) (reason : String) : Option Effect :=
  match c.attempt? who with
  | some .opening | some .openingReader =>
    some (c.attemptFailed who (.service "CONNECT" (.transport reason)), [])
  | _ => none

def prepared (c : Crew) (who : Nat) (o : Outcome) : Option Effect :=
  match c.attempt? who with
  | some (.creating resume) =>
    match Consumer.created o with
    | .ok () => some (c.goOn who (.positioning resume), [c.consumer.positionCommand resume])
    | .error f => some (c.attemptFailed who f, [])
  | some (.positioning _) =>
    match Consumer.positioned o with
    | .ok () => some (c.attemptSucceeded who, [])
    | .error f => some (c.attemptFailed who f, [])
  | _ => none

def attemptTimedOut (c : Crew) (who : Nat) : Option Effect :=
  (c.attempt? who).map fun _ =>
    (c.attemptFailed who (.service "CONNECT" (.timedOut c.attemptLimit)), [])

/-! ## Reading -/

def readerAsked (c : Crew) (who : Nat) : Option Effect :=
  match c.readers[who]? with
  | some r =>
    if r.stage = .between then some (c.readerAt who r .claiming, [c.consumer.claimCommand])
    else none
  | none => none

/-- A reader has an event at hand. The reading gets its number, and the reader waits for
room in the input channel. -/
def read (c : Crew) (who : Nat) (r : ReadingTask) (e : Event) : Crew :=
  { c.readerAt who r (.offering ⟨c.readings.length, e⟩) with
    readings := c.readings ++ [Reading.mk r.number e] }

/-- A reader got an entry. One that is not a change is dropped. -/
def entryCame (c : Crew) (who : Nat) (r : ReadingTask) (e : Entry) : Crew :=
  let stream := c.consumer.streamKey
  match e.decode with
  | .error _ => ((c.readerAt who r .between).notify .entryDropped).measure (.undecodable stream)
  | .ok (id, change) =>
    let resume := match c.resume with
      | some last => last.max id
      | none => id
    { c.read who r ⟨id, change⟩ with resume := some resume }.measure
      (.delivered stream e.redelivered)

def readerFailed (c : Crew) (who : Nat) (f : Failure) : Crew :=
  { c with readers := c.readers.eraseIdx who }.lose f

def claimAnswered (c : Crew) (who : Nat) (o : Outcome) : Option Effect :=
  match c.readers[who]? with
  | some r =>
    if r.stage = .claiming then
      match c.consumer.claimed o with
      | .error f => some (c.readerFailed who f, [])
      | .ok (some e, k) => some ({ c with consumer := k }.entryCame who r e, [])
      | .ok (none, k) => some ({ c with consumer := k }.readerAt who r .reading, [k.readCommand])
    else none
  | none => none

def readAnswered (c : Crew) (who : Nat) (o : Outcome) : Option Effect :=
  match c.readers[who]? with
  | some r =>
    if r.stage = .reading then
      match Consumer.read o with
      | .error f => some (c.readerFailed who f, [])
      | .ok (some e) => some (c.entryCame who r e, [])
      | .ok none => some (c.readerAt who r .between, [])
    else none
  | none => none

def handedOn (c : Crew) (who : Nat) : Option Effect :=
  match c.readers[who]?, c.input, c.forwarder with
  | some ⟨k, .offering n, stopping⟩, none, some _ =>
    some ({ c with
      readers := c.readers.set who ⟨k, .between, stopping⟩
      input := some n }, [])
  | _, _, _ => none

def readerStopped (c : Crew) (who : Nat) : Option Effect :=
  match c.readers[who]? with
  | some r =>
    if r.isStopping || c.isEnding then
      some ({ c with
        readers := c.readers.eraseIdx who
        stopped := c.stopped ++ [r.number] }, [])
    else none
  | none => none

/-! ## Forwarding -/

def forwarderTook (c : Crew) : Option Effect :=
  match c.forwarder, c.input with
  | some .waiting, some n => some ({ c with forwarder := some (.holding n), input := none }, [])
  | _, _ => none

def forwarderPut (c : Crew) : Option Effect :=
  match c.forwarder, c.output with
  | some (.holding n), none =>
    some ({ c with forwarder := some .waiting, output := some n }, [])
  | _, _ => none

def forwarderStopped (c : Crew) : Option Effect :=
  match c.forwarder with
  | some _ => if c.isEnding then some ({ c with forwarder := none, input := none }, []) else none
  | none => none

/-! ## Recovering -/

/-- A recovery lets go of the connection, takes the reader out of the slot and tells it
to stop. -/
def recoveryBegan (c : Crew) (who : Nat) : Option Effect :=
  if c.recoveries[who]? = some .started then
    some ({ c with
      isConnected := false
      readers := c.readersTold
      recoveries := c.recoveries.set who (.joining c.slot)
      slot := none }, [])
  else none

/-- Whether a reader has ended. -/
def isOver (c : Crew) (reader : Nat) : Bool := c.readers.all (·.number ≠ reader)

def recoveryScheduled (c : Crew) (who uptime : Nat) : Option Effect :=
  match c.recoveries[who]? with
  | some (.joining reader) =>
    if reader.all c.isOver then
      let next := if Queue.isSchedulable c.settings uptime then .waiting else .broken
      some ({ c with recoveries := c.recoveries.set who next }, [])
    else none
  | _ => none

def attemptBegan (c : Crew) (who : Nat) : Option Effect :=
  if c.recoveries[who]? = some .waiting then
    some ({ c with recoveries := c.recoveries.set who (.connecting .opening) }, [])
  else none

def recoveryStopped (c : Crew) (who : Nat) : Option Effect :=
  if c.isEnding then
    match c.recoveries[who]? with
    | some .waiting | some (.connecting _) =>
      some ({ c with recoveries := c.recoveries.eraseIdx who }, [])
    | _ => none
  else none

/-- The crew after a move of one of the tasks, which is the task with this number among
those that can make the move. -/
def move (c : Crew) (who : Nat) : Queue.Move → Option Effect
  | .opened => c.opened who
  | .openFailed reason => c.openFailed who reason
  | .prepared o => c.prepared who o
  | .attemptTimedOut => c.attemptTimedOut who
  | .readerAsked => c.readerAsked who
  | .claimAnswered o => c.claimAnswered who o
  | .readAnswered o => c.readAnswered who o
  | .handedOn => c.handedOn who
  | .readerStopped => c.readerStopped who
  | .forwarderTook => c.forwarderTook
  | .forwarderPut => c.forwarderPut
  | .forwarderStopped => c.forwarderStopped
  | .recoveryBegan => c.recoveryBegan who
  | .recoveryScheduled uptime => c.recoveryScheduled who uptime
  | .attemptBegan => c.attemptBegan who
  | .recoveryStopped => c.recoveryStopped who

/-! ## Calls -/

/-- A caller sends a command and waits for its outcome. -/
def send (c : Crew) (command : Command) : Effect :=
  ({ c with calls := c.calls ++ [command] }, [command])

/-- Whether somebody has the queue at hand: it was created and not let go of. -/
def isOwned (c : Crew) : Bool := c.firstAttempt.isNone && !c.isReleased

def publish (c : Crew) (change : Change) (now : Timestamp) : Option Effect :=
  match c.queue.publish change now with
  | .ok command => if c.isOwned then some (c.send command) else none
  | .error _ => none

def acknowledge (c : Crew) (id : EntryId) : Option Effect :=
  if c.isConnected && !c.isGone then some (c.send (c.consumer.ackCommand id)) else none

def publishAnswered (c : Crew) (o : Outcome) : Crew :=
  match o.value "XADD" Reply.textLike? with
  | .ok _ => c.measure (.published c.settings.subject true)
  | .error f =>
    let c := c.measure (.published c.settings.subject false)
    if f.isConnectionLost then c.lose f else c

def ackAnswered (c : Crew) (o : Outcome) : Crew :=
  let result := Consumer.acknowledged o
  let c := c.measure (.acknowledged c.consumer.streamKey result.isOk)
  match result with
  | .ok () => c
  | .error f => if f.isConnectionLost then c.lose f else c

/-- A call under way learns the outcome of its command. -/
def answered (c : Crew) (call : Nat) (o : Outcome) : Option Effect :=
  let rest := { c with calls := c.calls.eraseIdx call }
  match c.calls[call]? with
  | some (.append ..) => some (rest.publishAnswered o, [])
  | some (.acknowledge ..) => some (rest.ackAnswered o, [])
  | _ => none

/-- A caller gets in line for the next event. -/
def wait (c : Crew) (caller : Nat) : Option Effect :=
  if c.firstAttempt.isNone then some ({ c with line := c.line ++ [caller] }, []) else none

/-- A caller gives up waiting. -/
def abandon (c : Crew) (place : Nat) : Option Effect :=
  if place < c.line.length then some ({ c with line := c.line.eraseIdx place }, []) else none

/-- The caller that holds the lock receives the event in the output channel. -/
def receive (c : Crew) : Option Effect :=
  match c.line, c.output with
  | caller :: rest, some n =>
    some ({ c with
      line := rest
      output := none
      received := c.received ++ [Reception.mk caller n] }, [])
  | _, _ => none

/-- The caller that holds the lock learns that no event can come any more. -/
def noMore (c : Crew) : Option Effect :=
  match c.line, c.output with
  | _ :: rest, none => if c.queue.isEnded then some ({ c with line := rest }, []) else none
  | _, _ => none

/-! ## Closing -/

/-- Tells the tasks to end, and takes the reader out of the slot to wait for it. -/
def beginClose (c : Crew) : Option Effect :=
  if c.isOwned && !c.isClosing then some ({ c with isClosing := true, slot := none }, []) else none

def finishClose (c : Crew) : Option Effect :=
  if c.isClosing && c.state ≠ .closed && c.readers.isEmpty && c.forwarder.isNone
      && c.isRecovered then
    let failures := c.recoveries.map fun _ => Notice.taskFailedAtClose
    let c := { c with
      notices := c.notices ++ failures
      isConnected := false
      recoveries := [] }.enter .closed
    some (if failures.isEmpty then c else c.notify .closedWithErrors, [])
  else none

def release (c : Crew) : Option Effect :=
  if c.isOwned then some ({ c with isReleased := true }, []) else none

/-! ## All steps -/

/-- What one task or call does between two waits. -/
inductive Act where
  | move (who : Nat) (m : Queue.Move)
  | publish (c : Change) (now : Timestamp)
  | acknowledge (id : EntryId)
  | answered (call : Nat) (o : Outcome)
  | wait (caller : Nat)
  | abandon (place : Nat)
  | receive
  | noMore
  | beginClose
  | finishClose
  | release

/-- The crew after an act, if it is possible, and the commands that were sent. -/
def act (c : Crew) : Act → Option Effect
  | .move who m => c.move who m
  | .publish change now => c.publish change now
  | .acknowledge id => c.acknowledge id
  | .answered call o => c.answered call o
  | .wait caller => c.wait caller
  | .abandon place => c.abandon place
  | .receive => c.receive
  | .noMore => c.noMore
  | .beginClose => c.beginClose
  | .finishClose => c.finishClose
  | .release => c.release

/-- Acts one after another. -/
def run (c : Crew) (as : List Act) : Option Crew :=
  as.foldlM (fun c a => (c.act a).map Prod.fst) c

/-- What can be reached from a queue that was just created with any settings. -/
inductive Reachable : Crew → Prop where
  | fresh {s : QueueSettings} {q : Queue} (created : Queue.create s = .ok q) :
      Reachable (fresh q)
  | act {c : Crew} {a : Act} {e : Effect} (reached : Reachable c) (happens : c.act a = some e) :
      Reachable e.1

end Crew
end CatalogReplica
