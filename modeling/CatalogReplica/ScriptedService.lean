/-
# CatalogReplica.ScriptedService -- a log service that follows a script

A stand-in for the log service: what it answers is written down beforehand,
command by command. An answer that was not written down is the usual one: groups
are created, nothing is claimed or read, one entry is acknowledged.
-/
import CatalogReplica.Stream.Message

namespace CatalogReplica

/-- What the service does with a command. -/
inductive Answer where
  | send (m : Message)
  /-- Close the connection. -/
  | drop
  /-- Never answer. -/
  | hang

/-- What becomes of a command with this answer; without one it is lost in the end. -/
def Answer.outcome : Answer → Outcome
  | .send m => m.outcome
  | .drop | .hang => .lost "connection closed"

/-- The answers that are still to come, by the name of the command. -/
structure ScriptedService where
  answers : List (String × List Answer) := []

namespace ScriptedService

/-- The answers that are to come for a command. -/
def pending (s : ScriptedService) (name : String) : List Answer :=
  (s.answers.lookup name).getD []

/-- The service with these answers to come for a command. -/
def withPending (s : ScriptedService) (name : String) (as : List Answer) : ScriptedService :=
  ⟨(name, as) :: s.answers.filter (·.1 != name)⟩

/-- Adds answers to a command behind those that are to come. -/
def add (s : ScriptedService) (name : String) (as : List Answer) : ScriptedService :=
  s.withPending name (s.pending name ++ as)

/-- Takes the next answer to a command, if one was written down. -/
def take? (s : ScriptedService) (name : String) : Option (Answer × ScriptedService) :=
  match s.pending name with
  | [] => none
  | a :: as => some (a, s.withPending name as)

/-- The usual answer to a command. -/
def usual : Command → Message
  | .createGroup .. | .position .. => .status "OK"
  | .claim .. => .array [.ofString "0-0", .array [], .array []]
  | .read .. => .nil
  | .acknowledge .. => .int 1
  | .append .. => .ofString "0-1"

/-- Answers a command, and notes it. -/
def answer (command : Command) : StateM (ScriptedService × List Command) Outcome :=
  fun (s, sent) =>
    let sent := sent ++ [command]
    match s.take? command.name with
    | some (a, s) => (a.outcome, (s, sent))
    | none => ((usual command).outcome, (s, sent))

end ScriptedService
end CatalogReplica
