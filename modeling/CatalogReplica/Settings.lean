/-
# CatalogReplica.Settings -- the settings of a node

Settings of the change queue and of the replicator. Lengths of time are kept
as they were written; one that cannot be read stands for its default, and one
that carries out of the range for none.
-/
import CatalogReplica.Change
import CatalogReplica.Failure
import CatalogReplica.Text.Blank
import CatalogReplica.Time.Span.Reader

namespace CatalogReplica

/-! ## The change queue -/

/-- Settings of the change queue. -/
structure QueueSettings where
  url : String := "redis://127.0.0.1:6379"
  clusterId : String := "catalogs-cluster"
  /-- Names the node and its consumer group. -/
  nodeId : String
  subject : String := "catalogs"
  /-- How long a delivered event may stay unacknowledged. -/
  ackWait : String := "30s"
  /-- Time between attempts to connect. -/
  reconnectInterval : String := "1s"
  /-- How long one read waits for new entries. -/
  blockTimeout : String := "5s"
  /-- How long one attempt to connect may take. -/
  connectionTimeout : String := "5s"
  /-- Publish only, never subscribe. -/
  writeOnly : Bool := false
  deriving DecidableEq

namespace QueueSettings

/-- Where no other wait for an acknowledgement can be read. -/
def defaultAckWait : Span := .ofSeconds 30 (by decide)

/-- Where no other time between attempts can be read. -/
def defaultReconnect : Span := .ofSeconds 1 (by decide)

/-- Where no other wait for new entries can be read. -/
def defaultBlock : Span := .ofSeconds 5 (by decide)

/-- Where no other limit on an attempt can be read. -/
def defaultConnection : Span := .ofSeconds 5 (by decide)

/-- The span a text names, or else a default. -/
def spanOr (text : String) (fallback : Span) : Except Failure Span :=
  match Span.read text with
  | .ok d => .ok d
  | .error .unreadable => .ok fallback
  | .error .carry => .error (.settings (.spanTooLong text))

/-- The key of the stream of changes. -/
def streamKey (s : QueueSettings) : String := s.clusterId ++ ":" ++ s.subject

/-- How long a delivered event may stay unacknowledged. -/
def ackWaitSpan (s : QueueSettings) : Except Failure Span := spanOr s.ackWait defaultAckWait

/-- Time between attempts to connect. -/
def reconnectSpan (s : QueueSettings) : Except Failure Span :=
  spanOr s.reconnectInterval defaultReconnect

/-- How long one read waits for new entries. -/
def blockSpan (s : QueueSettings) : Except Failure Span := spanOr s.blockTimeout defaultBlock

/-- How long one attempt to connect may take. -/
def connectionSpan (s : QueueSettings) : Except Failure Span :=
  spanOr s.connectionTimeout defaultConnection

/-- Settings for tests, with short times. -/
def forTesting (nodeId url : String) : QueueSettings where
  url := url
  nodeId := nodeId
  ackWait := "2s"
  reconnectInterval := "100ms"
  blockTimeout := "200ms"
  connectionTimeout := "500ms"

/-- Checks that the settings can be used. -/
def validate (s : QueueSettings) : Except Failure Unit :=
  if isBlankText s.url then .error (.settings .emptyUrl)
  else if isBlankText s.subject then .error (.settings .emptySubject)
  else if isBlankText s.nodeId then .error (.settings .emptyNodeId)
  else .ok ()

/-- The schemes a URL of the log service may have. -/
def schemes : List String := ["redis", "rediss", "redis+unix", "unix"]

/-- Whether the URL has a scheme of the log service. Blanks and control
characters before it, tabs and line ends inside it, and the case of its letters
do not count. -/
def hasUsableScheme (s : QueueSettings) : Bool :=
  let cs := (s.url.toList.dropWhile (·.toNat ≤ 0x20)).filter fun c =>
    c != '\t' && c != '\n' && c != '\r'
  let scheme := String.ofList ((cs.takeWhile (· != ':')).map Char.toLower)
  cs.contains ':' && schemes.contains scheme

end QueueSettings

/-! ## The replicator -/

/-- Settings of the replicator. -/
structure ReplicatorSettings where
  /-- The domains whose changes this node applies. -/
  domains : List Domain := [.catalogs]
  deriving DecidableEq

/-- Checks that the settings can be used. -/
def ReplicatorSettings.validate (s : ReplicatorSettings) : Except Failure Unit :=
  if s.domains.isEmpty then .error (.settings .noDomains) else .ok ()

/-! ## A node -/

/-- The settings of a node. -/
structure Settings where
  queue : QueueSettings
  replicator : ReplicatorSettings := {}
  deriving DecidableEq

namespace Settings

/-- The default settings of the node with this id. -/
def ofNodeId (nodeId : String) : Settings where
  queue := { nodeId := nodeId }

/-- Checks that the settings can be used. -/
def validate (s : Settings) : Except Failure Unit := do
  s.queue.validate
  s.replicator.validate

end Settings
end CatalogReplica
