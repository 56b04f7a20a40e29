import TrustLink.Activities
import TrustLink.AdminCouncil
import TrustLink.AuditTrail
import TrustLink.BatchCreation
import TrustLink.BatchRevocation
import TrustLink.ChunkSync
import TrustLink.ChunkedLists
import TrustLink.ClaimTypeCounts
import TrustLink.ClaimTypes
import TrustLink.Collisions
import TrustLink.Commutation
import TrustLink.Consumers
import TrustLink.CouncilActions
import TrustLink.Counters
import TrustLink.Counts
import TrustLink.CursorOffset
import TrustLink.CursorPagination
import TrustLink.Custody
import TrustLink.Delegations
import TrustLink.Endorsements
import TrustLink.EntryBatches
import TrustLink.Erasure
import TrustLink.FeeCollector
import TrustLink.Fees
import TrustLink.History
import TrustLink.IndexConsistency
import TrustLink.Indexer.Convergence
import TrustLink.Indexer.Deliveries
import TrustLink.Indexer.Endpoint
import TrustLink.Indexer.ProcessRange
import TrustLink.Indexer.Reindexing
import TrustLink.Indexer.Restarts
import TrustLink.Indexer.Signings
import TrustLink.Indexer.Webhooks
import TrustLink.IssuerList
import TrustLink.IssuerRegistry
import TrustLink.Lib.Confined
import TrustLink.Lib.Custody
import TrustLink.Lib.EventLog
import TrustLink.Lib.Mirroring
import TrustLink.Lib.Recovery
import TrustLink.Lifetimes
import TrustLink.Limits
import TrustLink.MultisigCompletion
import TrustLink.MultisigFinality
import TrustLink.MultisigProtocol
import TrustLink.Numerals
import TrustLink.Observer
import TrustLink.Origins
import TrustLink.PageIteration
import TrustLink.PagedLists
import TrustLink.Pause
import TrustLink.Postings
import TrustLink.Proceedings
import TrustLink.RateLimit
import TrustLink.Readers
import TrustLink.RegisteredTypes
import TrustLink.Registries
import TrustLink.Reputation
import TrustLink.RequestLifecycle
import TrustLink.RightfulChanges
import TrustLink.Sdk.Resilience
import TrustLink.SubjectChecks
import TrustLink.Times
import TrustLink.Windows
