/-
# CatalogReplica.Notice -- what operators are told

Notices are the lines of the log that say that something went wrong, as
warnings or as errors.
-/

namespace CatalogReplica

/-- A line of the log. -/
inductive Notice where
  | firstConnectionFailed
  | connectionLost
  | reconnectFailed
  | entryDropped
  | taskFailedAtClose
  | closedWithErrors
  | bootstrapFailed
  | replicationFailed
  | applyFailed
  | acknowledgeFailed
  | publishFailed
  deriving DecidableEq, Repr

namespace Notice

/-- Whether a notice is an error rather than a warning. -/
def isError : Notice → Bool
  | connectionLost | closedWithErrors | bootstrapFailed | replicationFailed => true
  | _ => false

/-- The wording of a notice. -/
def message : Notice → String
  | firstConnectionFailed => "Initial change queue connection failed, retrying in background"
  | connectionLost => "Change queue connection lost"
  | reconnectFailed => "Reconnect attempt failed"
  | entryDropped => "Dropping undecodable entry"
  | taskFailedAtClose => "Change queue task failed during shutdown"
  | closedWithErrors => "Change queue closed with errors"
  | bootstrapFailed => "Bootstrap failed, continuing with live events"
  | replicationFailed => "Failed to handle replication events"
  | applyFailed => "Failed to apply event"
  | acknowledgeFailed => "Failed to acknowledge event"
  | publishFailed => "Failed to publish change"

/-- A notice with its level. -/
def line (n : Notice) : String := (if n.isError then "ERROR " else "WARN ") ++ n.message

end Notice
end CatalogReplica
