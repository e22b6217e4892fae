/-
# CatalogReplica.Settings.Json -- settings as JSON

Every member may be missing and then has its default; a missing node id is
generated. Written, all members are there.
-/
import CatalogReplica.Change.Json
import CatalogReplica.Settings

namespace CatalogReplica

open Json

/-! ## The change queue -/

namespace QueueSettings

/-- The members that have been read. -/
structure Parts where
  url : Option String := none
  clusterId : Option String := none
  nodeId : Option String := none
  subject : Option String := none
  ackWait : Option String := none
  reconnectInterval : Option String := none
  blockTimeout : Option String := none
  connectionTimeout : Option String := none
  writeOnly : Option Bool := none

/-- The settings with these members and defaults for the others. -/
def Parts.settings (generated : String) (p : Parts) : QueueSettings :=
  let d : QueueSettings := { nodeId := generated }
  { url := p.url.getD d.url
    clusterId := p.clusterId.getD d.clusterId
    nodeId := p.nodeId.getD d.nodeId
    subject := p.subject.getD d.subject
    ackWait := p.ackWait.getD d.ackWait
    reconnectInterval := p.reconnectInterval.getD d.reconnectInterval
    blockTimeout := p.blockTimeout.getD d.blockTimeout
    connectionTimeout := p.connectionTimeout.getD d.connectionTimeout
    writeOnly := p.writeOnly.getD d.writeOnly }

/-- The form of the settings, with the node id to use where none is given. -/
def shape (generated : String) : Shape Parts QueueSettings where
  name := "QueueConfig"
  members := [
    .of "url" false (·.url) (fun p x => { p with url := some x }) readString,
    .of "cluster_id" false (·.clusterId) (fun p x => { p with clusterId := some x }) readString,
    .of "node_id" false (·.nodeId) (fun p x => { p with nodeId := some x }) readString,
    .of "subject" false (·.subject) (fun p x => { p with subject := some x }) readString,
    .of "ack_wait" false (·.ackWait) (fun p x => { p with ackWait := some x }) readString,
    .of "reconnect_interval" false (·.reconnectInterval)
      (fun p x => { p with reconnectInterval := some x }) readString,
    .of "block_timeout" false (·.blockTimeout)
      (fun p x => { p with blockTimeout := some x }) readString,
    .of "connection_timeout" false (·.connectionTimeout)
      (fun p x => { p with connectionTimeout := some x }) readString,
    .of "write_only" false (·.writeOnly) (fun p x => { p with writeOnly := some x }) readBool]
  start := {}
  finish := Parts.settings generated

/-- The members as they are written. -/
def written (s : QueueSettings) : List Written := [
  ("url", stringChars s.url),
  ("cluster_id", stringChars s.clusterId),
  ("node_id", stringChars s.nodeId),
  ("subject", stringChars s.subject),
  ("ack_wait", stringChars s.ackWait),
  ("reconnect_interval", stringChars s.reconnectInterval),
  ("block_timeout", stringChars s.blockTimeout),
  ("connection_timeout", stringChars s.connectionTimeout),
  ("write_only", boolChars s.writeOnly)]

end QueueSettings

/-! ## The replicator -/

namespace ReplicatorSettings

/-- The member, if it has been read. -/
structure Parts where
  domains : Option (List Domain) := none

/-- The form of the settings. -/
def shape : Shape Parts ReplicatorSettings where
  name := "ReplicatorConfig"
  members := [
    .of "operation_types" false (·.domains) (fun p x => { p with domains := some x })
      (readList Domain.read)]
  start := {}
  finish p := ⟨p.domains.getD [.catalogs]⟩

/-- The member as it is written. -/
def written (s : ReplicatorSettings) : List Written :=
  [("operation_types", listChars (s.domains.map fun d => stringChars d.name))]

end ReplicatorSettings

/-! ## A node -/

namespace Settings

/-- The members that have been read. -/
structure Parts where
  queue : Option QueueSettings := none
  replicator : Option ReplicatorSettings := none

/-- The form of the settings, with the node id to use where none is given. -/
def shape (generated : String) : Shape Parts Settings where
  name := "CatalogConfig"
  members := [
    .of "queue" false (·.queue) (fun p x => { p with queue := some x })
      (QueueSettings.shape generated).read,
    .of "replicator" false (·.replicator) (fun p x => { p with replicator := some x })
      ReplicatorSettings.shape.read]
  start := {}
  finish p := ⟨p.queue.getD { nodeId := generated }, p.replicator.getD {}⟩

/-- The settings that octets spell, with the node id to use where none is
given. -/
def ofOctets (generated : String) (s : Octets) : Except Fault Settings :=
  readWhole (shape generated).read s

/-- The characters of the settings. -/
def chars (s : Settings) : List Char :=
  objectChars [
    ("queue", objectChars s.queue.written),
    ("replicator", objectChars s.replicator.written)]

/-- The JSON text of the settings. -/
def json (s : Settings) : String := String.ofList s.chars

end Settings
end CatalogReplica
