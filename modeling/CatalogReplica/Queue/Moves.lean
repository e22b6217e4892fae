/-
# CatalogReplica.Queue.Moves -- what the background tasks do

A move is what one task does between two waits. Each is enabled in some states
of the queue only, and may send a command. Which of several enabled moves comes
next is open: whatever is true of every sequence of moves is true of the queue
however its tasks are scheduled, and whatever the log service does.
-/
import CatalogReplica.Queue

namespace CatalogReplica.Queue

/-- The queue after a move, and the commands it sent. -/
abbrev Effect := Queue × List Command

/-! ## Connecting -/

/-- An attempt to connect has failed: nothing is held, and another one follows
later. -/
def attemptFailed (q : Queue) (f : Failure) : Queue :=
  let q := q.measure (.connectionAttempt false)
  match q.firstAttempt with
  | some _ => ({ q with firstAttempt := none }.notify .firstConnectionFailed).lose f
  | none => { q with recovery := some .waiting }.notify .reconnectFailed

/-- An attempt to connect has succeeded: the connection is held and the reader
starts, unless the queue has been told to close in the meantime. -/
def attemptSucceeded (q : Queue) : Queue :=
  let q := { q.measure (.connectionAttempt true) with firstAttempt := none, recovery := none }
  if q.isClosing then q
  else
    { q with
      isConnected := true
      reader := if q.settings.writeOnly then none else some ⟨.between, false⟩ }.enter .connected

/-- A connection that was being opened is there. -/
def opened (q : Queue) : Option Effect :=
  match q.attempt? with
  | some .opening =>
    if q.settings.writeOnly then some (q.attemptSucceeded, [])
    else some (q.goOn .openingReader, [])
  | some .openingReader => some (q.goOn (.creating q.resume), [q.consumer.createCommand])
  | _ => none

/-- A connection that was being opened was refused. -/
def openFailed (q : Queue) (reason : String) : Option Effect :=
  match q.attempt? with
  | some .opening | some .openingReader =>
    some (q.attemptFailed (.service "CONNECT" (.transport reason)), [])
  | _ => none

/-- The command that prepares the group had an outcome. -/
def prepared (q : Queue) (o : Outcome) : Option Effect :=
  match q.attempt? with
  | some (.creating resume) =>
    match Consumer.created o with
    | .ok () => some (q.goOn (.positioning resume), [q.consumer.positionCommand resume])
    | .error f => some (q.attemptFailed f, [])
  | some (.positioning _) =>
    match Consumer.positioned o with
    | .ok () => some (q.attemptSucceeded, [])
    | .error f => some (q.attemptFailed f, [])
  | _ => none

/-- The attempt to connect took too long. -/
def attemptTimedOut (q : Queue) : Option Effect :=
  q.attempt?.map fun _ =>
    (q.attemptFailed (.service "CONNECT" (.timedOut q.attemptLimit)), [])

/-! ## Reading -/

/-- The reader asks for the next entry. -/
def readerAsked (q : Queue) : Option Effect :=
  match q.reader with
  | some r =>
    if r.stage = .between then some (q.readerAt r .claiming, [q.consumer.claimCommand]) else none
  | none => none

/-- The reader got an entry. One that is not a change is dropped; the others
move the position from which reading would be taken up again. -/
def entryCame (q : Queue) (r : Reader) (e : Entry) : Queue :=
  let stream := q.consumer.streamKey
  match e.decode with
  | .error _ => ((q.readerAt r .between).notify .entryDropped).measure (.undecodable stream)
  | .ok (id, change) =>
    let resume := match q.resume with
      | some last => last.max id
      | none => id
    { q.readerAt r (.offering ⟨id, change⟩) with resume := some resume }.measure
      (.delivered stream e.redelivered)

/-- The reader failed and ends. -/
def readerFailed (q : Queue) (f : Failure) : Queue := { q with reader := none }.lose f

/-- The claim had an outcome. -/
def claimAnswered (q : Queue) (o : Outcome) : Option Effect :=
  match q.reader with
  | some r =>
    if r.stage = .claiming then
      match q.consumer.claimed o with
      | .error f => some (q.readerFailed f, [])
      | .ok (some e, c) => some ({ q with consumer := c }.entryCame r e, [])
      | .ok (none, c) => some ({ q with consumer := c }.readerAt r .reading, [c.readCommand])
    else none
  | none => none

/-- The read had an outcome. -/
def readAnswered (q : Queue) (o : Outcome) : Option Effect :=
  match q.reader with
  | some r =>
    if r.stage = .reading then
      match Consumer.read o with
      | .error f => some (q.readerFailed f, [])
      | .ok (some e) => some (q.entryCame r e, [])
      | .ok none => some (q.readerAt r .between, [])
    else none
  | none => none

/-- The input channel takes the event that the reader holds. -/
def handedOn (q : Queue) : Option Effect :=
  match q.reader, q.input, q.forwarder with
  | some ⟨.offering e, stopping⟩, none, some _ =>
    some ({ q with reader := some ⟨.between, stopping⟩, input := some e }, [])
  | _, _, _ => none

/-- The reader ends because it was told to; an event that it holds is lost. -/
def readerStopped (q : Queue) : Option Effect :=
  match q.reader with
  | some r => if r.isStopping || q.isEnding then some ({ q with reader := none }, []) else none
  | none => none

/-! ## Forwarding -/

/-- The forwarder takes an event out of the input channel. -/
def forwarderTook (q : Queue) : Option Effect :=
  match q.forwarder, q.input with
  | some .waiting, some e => some ({ q with forwarder := some (.holding e), input := none }, [])
  | _, _ => none

/-- The output channel takes the event that the forwarder holds. -/
def forwarderPut (q : Queue) : Option Effect :=
  match q.forwarder, q.output with
  | some (.holding e), none =>
    some ({ q with forwarder := some .waiting, output := some e }, [])
  | _, _ => none

/-- The forwarder ends because it was told to; an event that it holds, and one
in the input channel, are lost. -/
def forwarderStopped (q : Queue) : Option Effect :=
  match q.forwarder with
  | some _ => if q.isEnding then some ({ q with forwarder := none, input := none }, []) else none
  | none => none

/-! ## Recovering -/

/-- The recovery lets go of the connection and tells the reader to stop. -/
def recoveryBegan (q : Queue) : Option Effect :=
  if q.recovery = some .started then
    some ({ q with
      isConnected := false
      reader := q.reader.map fun r => { r with isStopping := true }
      recovery := some .stoppingReader }, [])
  else none

/-- Whether the next attempt can be scheduled, so many seconds after the clock
began to count. Instants are counted in 63 bits and a sign. -/
def isSchedulable (s : QueueSettings) (uptime : Nat) : Bool :=
  match s.reconnectSpan with
  | .ok interval => uptime + interval.seconds < halfWord
  | .error _ => false

/-- The reader has stopped, and the next attempt is scheduled if it can be. -/
def recoveryScheduled (q : Queue) (uptime : Nat) : Option Effect :=
  if q.recovery = some .stoppingReader ∧ q.reader = none then
    let next := if isSchedulable q.settings uptime then Recovery.waiting else .broken
    some ({ q with recovery := some next }, [])
  else none

/-- The time of the next attempt has come. -/
def attemptBegan (q : Queue) : Option Effect :=
  if q.recovery = some .waiting then some ({ q with recovery := some (.connecting .opening) }, [])
  else none

/-- The recovery ends because it was told to. -/
def recoveryStopped (q : Queue) : Option Effect :=
  if q.isEnding then
    match q.recovery with
    | some .waiting | some (.connecting _) => some ({ q with recovery := none }, [])
    | _ => none
  else none

/-! ## All moves -/

/-- A move of one of the tasks. -/
inductive Move where
  | opened
  | openFailed (reason : String)
  | prepared (o : Outcome)
  | attemptTimedOut
  | readerAsked
  | claimAnswered (o : Outcome)
  | readAnswered (o : Outcome)
  | handedOn
  | readerStopped
  | forwarderTook
  | forwarderPut
  | forwarderStopped
  | recoveryBegan
  | recoveryScheduled (uptime : Nat)
  | attemptBegan
  | recoveryStopped

/-- The queue after a move, if the move is enabled. -/
def move (q : Queue) : Move → Option Effect
  | .opened => q.opened
  | .openFailed reason => q.openFailed reason
  | .prepared o => q.prepared o
  | .attemptTimedOut => q.attemptTimedOut
  | .readerAsked => q.readerAsked
  | .claimAnswered o => q.claimAnswered o
  | .readAnswered o => q.readAnswered o
  | .handedOn => q.handedOn
  | .readerStopped => q.readerStopped
  | .forwarderTook => q.forwarderTook
  | .forwarderPut => q.forwarderPut
  | .forwarderStopped => q.forwarderStopped
  | .recoveryBegan => q.recoveryBegan
  | .recoveryScheduled uptime => q.recoveryScheduled uptime
  | .attemptBegan => q.attemptBegan
  | .recoveryStopped => q.recoveryStopped

end CatalogReplica.Queue
