/-
# CatalogReplica.Settings.Environment -- settings from environment variables

Seven variables set one field each; a variable that is not set leaves its
field at the default. The domains are a list with commas, in which blanks
around a name and blank items do not count.
-/
import CatalogReplica.Settings

namespace CatalogReplica

/-- The values of environment variables. -/
abbrev Environment := String → Option String

namespace Domain

/-- The parts of a text between commas. -/
def splitCommas : List Char → List (List Char)
  | [] => [[]]
  | c :: cs =>
    if c == ',' then [] :: splitCommas cs
    else
      match splitCommas cs with
      | part :: parts => (c :: part) :: parts
      | [] => [[c]]

/-- The domains that a text with commas names. -/
def ofCommas (s : String) : List Domain :=
  (((splitCommas s.toList).map trimBlanks).filter (!·.isEmpty)).map fun cs =>
    ⟨String.ofList cs⟩

end Domain

namespace Settings

/-- The settings that the environment gives, with the node id to use where
none is given. -/
def ofEnvironment (generated : String) (env : Environment) : Settings :=
  let d : QueueSettings := { nodeId := generated }
  { queue := { d with
      url := (env "EVENT_QUEUE_URL").getD d.url
      clusterId := (env "EVENT_QUEUE_CLUSTER_ID").getD d.clusterId
      subject := (env "EVENT_QUEUE_SUBJECT").getD d.subject
      nodeId := (env "EVENT_QUEUE_NODE_ID").getD d.nodeId
      ackWait := (env "EVENT_QUEUE_ACK_WAIT").getD d.ackWait
      reconnectInterval := (env "EVENT_QUEUE_RECONNECT_INTERVAL").getD d.reconnectInterval }
    replicator :=
      match env "REPLICATOR_OPERATION_TYPES" with
      | some names => ⟨Domain.ofCommas names⟩
      | none => {} }

end Settings
end CatalogReplica
