import CatalogReplica.Cache.Lemmas
import CatalogReplica.EntryId.Lemmas
import CatalogReplica.Json.Quoted.Lemmas
import CatalogReplica.Node
import CatalogReplica.NodeId
import CatalogReplica.Proofs.Cache.Answers
import CatalogReplica.Queue.Scripted
import CatalogReplica.Settings.Environment
import CatalogReplica.Settings.Json
import CatalogReplica.Time.Timestamp.Lemmas
import CatalogReplica.Proofs.Replication.Edits
import CatalogReplica.Proofs.Replication.Redelivery
import CatalogReplica.Proofs.Replication.WriteThrough
import CatalogReplica.Proofs.Replication.WholeRun
import CatalogReplica.Proofs.Replication.ConcurrentWriters
import CatalogReplica.Proofs.Delivery.Log
import CatalogReplica.Proofs.Delivery.Replies
import CatalogReplica.Proofs.Delivery.World
import CatalogReplica.Proofs.Delivery.AtLeastOnce
import CatalogReplica.Proofs.Wire.Entries
import CatalogReplica.Proofs.Delivery.Backlog
import CatalogReplica.Proofs.Cache.Histories
import CatalogReplica.Proofs.Queue.Crew
import CatalogReplica.Proofs.Queue.Phases
import CatalogReplica.Proofs.Queue.OneRecovery
import CatalogReplica.Proofs.Queue.Simulation
import CatalogReplica.Proofs.Queue.Pipe
import CatalogReplica.Proofs.Queue.ReadingOrder
import CatalogReplica.Proofs.Queue.ResumePoint
import CatalogReplica.Proofs.Replication.Joining
import CatalogReplica.Proofs.Queue.Undecodable
import CatalogReplica.Proofs.Queue.Turns
import CatalogReplica.Proofs.Queue.Closed
import CatalogReplica.Proofs.Queue.Handles
import CatalogReplica.Proofs.Queue.Closing
import CatalogReplica.Proofs.Service.Publishing
import CatalogReplica.Proofs.Replication.Retrying
import CatalogReplica.Proofs.Queue.InFlight
import CatalogReplica.Proofs.Queue.FailedAttempts
import CatalogReplica.Proofs.Wire.Framing
import CatalogReplica.Proofs.Wire.Spellings
import CatalogReplica.Proofs.Queue.Appending
import CatalogReplica.Proofs.EntryId.Spelling
import CatalogReplica.Proofs.Stream.ClaimReplies
import CatalogReplica.Proofs.Stream.Redelivered
import CatalogReplica.Proofs.Delivery.Claims
import CatalogReplica.Proofs.Delivery.PendingScan
import CatalogReplica.Proofs.Delivery.Sweep
import CatalogReplica.Proofs.Cache.Lookups
import CatalogReplica.Proofs.Cache.Searching
import CatalogReplica.Proofs.Store.Calls
import CatalogReplica.Proofs.Queue.Waits
import CatalogReplica.Proofs.Settings.Environment
import CatalogReplica.Proofs.Settings.Members
import CatalogReplica.Proofs.Metrics.Accounts
import CatalogReplica.Proofs.Replication.Gauges
import CatalogReplica.Proofs.Queue.Counters
import CatalogReplica.Proofs.Delivery.Isolation
