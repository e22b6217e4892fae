/-
# CatalogReplica.Failure -- what can go wrong

Failures are told apart by where they arise: the connection, the log service,
the payload, the settings, the authoritative store, the cache. Each carries
its cause, and `message` words it.

Two questions are asked of a failure. `isRetryable`: can the same call succeed
later? That is so for a missing connection, for the log service and for the
store. `isConnectionLost`: is the connection gone? That is so where there was
none and where the transport failed, but not where the service answered.
-/
import CatalogReplica.Json.Fault
import CatalogReplica.Json.Report
import CatalogReplica.Refusal
import CatalogReplica.Reply.Shown
import CatalogReplica.Time.Span

namespace CatalogReplica

/-! ## Causes -/

/-- Why a command to the log service failed. -/
inductive ServiceFault where
  /-- The transport failed. -/
  | transport (reason : String)
  | refused (refusal : Refusal)
  /-- The reply is not of the type the command needs. -/
  | replyType
  | timedOut (limit : Span)
  | stated (reason : String)

/-- What is wrong with the reply to a claim. -/
inductive ClaimFault where
  | notList
  | noCursor
  | entriesNotList
  | entryNotList
  | entryIncomplete
  | idNotText
  | badFields
  | fieldsNotList
  deriving DecidableEq, Repr

/-- Why something that came from the log is not a change. -/
inductive DecodeFault where
  | entryId (text : String)
  | missingField (name : String)
  | fieldType (name : String) (value : Reply)
  | payload (fault : Json.Fault)
  | claimReply (fault : ClaimFault)
  | stated (reason : String)

/-- What is wrong with the settings. -/
inductive SettingsFault where
  | emptyUrl
  | emptySubject
  | emptyNodeId
  | noDomains
  | unusableUrl (url : String)
  /-- A length of time whose terms carry out of the range. -/
  | spanTooLong (text : String)
  | stated (reason : String)
  deriving DecidableEq

/-- Why the authoritative store failed. -/
inductive StoreFault where
  | noCategory
  | noName
  | stated (reason : String)
  deriving DecidableEq

/-- Why a change cannot be applied. -/
inductive ApplyFault where
  | upsertWithoutId
  | stated (reason : String)
  deriving DecidableEq

/-- What is not there. -/
inductive Unknown where
  | record (id : String)
  | category (name : String)
  | stated (reason : String)
  deriving DecidableEq

/-- What should not have happened. -/
inductive InternalFault where
  /-- A background task did not end by itself. -/
  | taskFailed (reason : String)
  | stated (reason : String)
  deriving DecidableEq

/-- A failure. -/
inductive Failure where
  | noConnection
  | queueClosed
  | service (operation : String) (fault : ServiceFault)
  | encode (report : Json.Report)
  | decode (fault : DecodeFault)
  | settings (fault : SettingsFault)
  | store (fault : StoreFault)
  | invalidChange (fault : ApplyFault)
  | notFound (what : Unknown)
  | streamClosed
  /-- Everything that failed while the queue was being closed. -/
  | close (failures : List Failure)
  | internal (fault : InternalFault)
  deriving Inhabited

/-! ## Wording -/

/-- The wording of a fault of the log service. -/
def ServiceFault.message : ServiceFault → String
  | transport reason => reason
  | refused refusal => refusal.message
  | replyType => "response was of incompatible type"
  | timedOut limit => "timed out after " ++ limit.shown
  | stated reason => reason

/-- The wording of a fault in the reply to a claim. -/
def ClaimFault.message : ClaimFault → String
  | notList => "not an array"
  | noCursor => "missing next start"
  | entriesNotList => "entries are not an array"
  | entryNotList => "entry is not an array"
  | entryIncomplete => "entry is missing id or fields"
  | idNotText => "entry id is not a string"
  | badFields => "bad field list"
  | fieldsNotList => "fields are not an array"

/-- The wording of a fault in something that came from the log. -/
def DecodeFault.message : DecodeFault → String
  | entryId text => "invalid stream entry id: " ++ quoted text
  | missingField name => "missing field: " ++ name
  | fieldType name value => "unexpected type for field " ++ name ++ ": " ++ value.shown
  | payload fault => fault.message
  | claimReply fault => "malformed XAUTOCLAIM reply: " ++ fault.message
  | stated reason => reason

/-- The wording of a fault in the settings. -/
def SettingsFault.message : SettingsFault → String
  | emptyUrl => "queue url is empty"
  | emptySubject => "queue subject is empty"
  | emptyNodeId => "queue node_id is empty"
  | noDomains => "replicator has no operation types"
  | unusableUrl url =>
    "invalid queue url " ++ url ++ ": Redis URL did not parse- InvalidClientConfig"
  | spanTooLong text => "length of time out of range: " ++ text
  | stated reason => reason

/-- The wording of a fault of the store. -/
def StoreFault.message : StoreFault → String
  | noCategory => "category is required"
  | noName => "name is required"
  | stated reason => reason

/-- The wording of a change that cannot be applied. -/
def ApplyFault.message : ApplyFault → String
  | upsertWithoutId => "upsert without record id"
  | stated reason => reason

/-- The wording of what is not there. -/
def Unknown.message : Unknown → String
  | record id => "catalog " ++ id
  | category name => "category " ++ name
  | stated reason => reason

/-- The wording of what should not have happened. -/
def InternalFault.message : InternalFault → String
  | taskFailed reason => "background task failed: " ++ reason
  | stated reason => reason

namespace Failure

mutual

/-- The wording of a failure. -/
def message : Failure → String
  | noConnection => "no connection to the event queue"
  | queueClosed => "queue already closed"
  | service operation fault => "Redis error (" ++ operation ++ "): " ++ fault.message
  | encode report => "failed to encode operation: " ++ report.message
  | decode fault => "failed to decode operation: " ++ fault.message
  | settings fault => "Configuration error: " ++ fault.message
  | store fault => "store error: " ++ fault.message
  | invalidChange fault => "invalid operation: " ++ fault.message
  | notFound what => "not found: " ++ what.message
  | streamClosed => "event channel is closed"
  | close failures => "unable to close queue: " ++ String.intercalate "; " (messages failures)
  | internal fault => "Internal error: " ++ fault.message

/-- The wordings of several failures. -/
def messages : List Failure → List String
  | [] => []
  | f :: fs => message f :: messages fs

end

/-! ## Two questions -/

/-- Whether repeating the same call later can succeed. -/
def isRetryable : Failure → Bool
  | noConnection | service _ _ | store _ => true
  | _ => false

/-- Whether the connection is gone. -/
def isConnectionLost : Failure → Bool
  | noConnection | service _ (.transport _) => true
  | _ => false

end Failure
end CatalogReplica
