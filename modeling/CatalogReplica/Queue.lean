/-
# CatalogReplica.Queue -- the change queue of one node

The queue carries changes over the log. Three background tasks work on it:

* the *reader* takes entries off the log, one at a time, and decodes them;
* the *forwarder* moves events from the reader's side to the callers' side;
* the *recovery* makes a new connection after one was lost.

Events pass through two channels of one place each, so with nobody receiving
four of them are under way: one in each channel, one held by the forwarder and
one held by the reader, which reads nothing more until it is rid of it.

    log --> reader --> input --> forwarder --> output --> callers

This module holds the state of the queue. `Queue.Moves` says what the tasks do
to it, one step between two waits at a time, and `Queue.Calls` what callers do.
-/
import CatalogReplica.Event
import CatalogReplica.Metrics
import CatalogReplica.Notice
import CatalogReplica.Stream.Consumer

namespace CatalogReplica

/-! ## Tasks -/

/-- The state of the connection, as callers see it. -/
inductive LinkState where
  | disconnected
  | connected
  | reconnecting
  /-- The queue was closed; this is never left. -/
  | closed
  deriving DecidableEq, Repr

/-- The name of a connection state. -/
def LinkState.name : LinkState → String
  | disconnected => "Disconnected"
  | connected => "Connected"
  | reconnecting => "Reconnecting"
  | closed => "Closed"

/-- What an attempt to connect is waiting for. -/
inductive Attempt where
  /-- The connection for publishing. -/
  | opening
  /-- The connection for reading. -/
  | openingReader
  /-- The creation of the group, which then goes behind this entry. -/
  | creating (resume : Option EntryId)
  /-- The group going behind this entry. -/
  | positioning (resume : Option EntryId)
  deriving DecidableEq

/-- How far the reader is with the next entry. -/
inductive ReaderStage where
  /-- Nothing has been asked for yet. -/
  | between
  /-- A claim was sent. -/
  | claiming
  /-- A read was sent. -/
  | reading
  /-- An event waits for room in the input channel. -/
  | offering (e : Event)
  deriving DecidableEq

/-- The reader. -/
structure Reader where
  stage : ReaderStage
  /-- Whether it has been told to stop. -/
  isStopping : Bool
  deriving DecidableEq

/-- The forwarder. -/
inductive Forwarder where
  | waiting
  /-- An event waits for room in the output channel. -/
  | holding (e : Event)
  deriving DecidableEq

/-- The recovery. -/
inductive Recovery where
  /-- It has not done anything yet. -/
  | started
  /-- It waits for the reader to stop. -/
  | stoppingReader
  /-- It waits for the next attempt. -/
  | waiting
  | connecting (attempt : Attempt)
  /-- The next attempt lies too far ahead to be scheduled; it has given up. -/
  | broken
  deriving DecidableEq

/-! ## The queue -/

/-- The change queue of a node. -/
structure Queue where
  settings : QueueSettings
  /-- How long one attempt to connect may take. -/
  attemptLimit : Span
  consumer : Consumer
  state : LinkState
  /-- Whether a connection for publishing is held. -/
  isConnected : Bool
  /-- The last entry that was decoded, in the order of ids. -/
  resume : Option EntryId
  /-- The attempt to connect that is made when the queue is created. -/
  firstAttempt : Option Attempt
  recovery : Option Recovery
  reader : Option Reader
  forwarder : Option Forwarder
  /-- The channel between reader and forwarder. -/
  input : Option Event
  /-- The channel between forwarder and callers. -/
  output : Option Event
  /-- Whether the queue has been told to close. -/
  isClosing : Bool
  /-- Whether its owner has let go of it. -/
  isReleased : Bool
  measurements : Measurements
  notices : List Notice

namespace Queue

/-! ## Reading the state -/

/-- Whether the tasks have been told to end. -/
def isEnding (q : Queue) : Bool := q.isClosing || q.isReleased

/-- Whether the recovery is at work. One that has given up is not. -/
def isRecovering (q : Queue) : Bool :=
  match q.recovery with
  | none | some .broken => false
  | some _ => true

/-- Whether nobody can reach the queue any more. -/
def isGone (q : Queue) : Bool := q.isReleased && q.reader.isNone && !q.isRecovering

/-- The attempt to connect that is under way. -/
def attempt? (q : Queue) : Option Attempt :=
  match q.firstAttempt, q.recovery with
  | some a, _ => some a
  | none, some (.connecting a) => some a
  | none, _ => none

/-! ## Small changes -/

/-- Adds a measurement. -/
def measure (q : Queue) (m : Measurement) : Queue :=
  { q with measurements := q.measurements ++ [m] }

/-- Adds a notice. -/
def notify (q : Queue) (n : Notice) : Queue := { q with notices := q.notices ++ [n] }

/-- Enters a connection state. -/
def enter (q : Queue) (s : LinkState) : Queue :=
  { q with state := s }.measure (.queueState s.name)

/-- Goes on with the attempt that is under way. -/
def goOn (q : Queue) (a : Attempt) : Queue :=
  match q.firstAttempt with
  | some _ => { q with firstAttempt := some a }
  | none => { q with recovery := some (.connecting a) }

/-- Puts the reader to a stage. -/
def readerAt (q : Queue) (r : Reader) (stage : ReaderStage) : Queue :=
  { q with reader := some { r with stage := stage } }

/-- The label of the reason why a connection was lost. -/
def lossLabel (reason : Failure) : String :=
  if reason.isConnectionLost then "connection" else "command"

/-- A connection was lost: the recovery starts, unless it is at work already or
the queue is closing. -/
def lose (q : Queue) (reason : Failure) : Queue :=
  if q.isClosing || q.recovery.isSome then q
  else
    { (((q.notify .connectionLost).measure (.connectionLost (lossLabel reason))).enter
        .reconnecting) with recovery := some .started }

/-! ## Creation -/

/-- A new queue, which is about to make its first connection. Only settings
that cannot be used keep it from being created. -/
def create (s : QueueSettings) : Except Failure Queue := do
  s.validate
  if s.hasUsableScheme then
    let consumer ← Consumer.ofSettings s
    let attemptLimit ← s.connectionSpan
    .ok
      { settings := s
        attemptLimit := attemptLimit
        consumer := consumer
        state := .disconnected
        isConnected := false
        resume := none
        firstAttempt := some .opening
        recovery := none
        reader := none
        forwarder := if s.writeOnly then none else some .waiting
        input := none
        output := none
        isClosing := false
        isReleased := false
        measurements := [.queueState LinkState.disconnected.name]
        notices := [] }
  else .error (.settings (.unusableUrl s.url))

end Queue
end CatalogReplica
