import JobQueue.Json.Parser
import JobQueue.Fingerprint
import JobQueue.Handler.ErrorChain
import JobQueue.Postgres.Document
import JobQueue.Postgres.Session
import JobQueue.Store.Document
import JobQueue.Rehearsal.Run
import JobQueue.Rehearsal.Transcript
import JobQueue.Metrics.Text
import JobQueue.Settings.Load
import JobQueue.Proofs.Interleaving.Budget
import JobQueue.Proofs.Interleaving.Burial
import JobQueue.Proofs.Interleaving.Custody
import JobQueue.Proofs.Postgres.Insertion
import JobQueue.Proofs.Postgres.StuckPass
import JobQueue.Proofs.Store.Run
import JobQueue.Proofs.Store.Shape
import JobQueue.Proofs.Store.Lock
import JobQueue.Proofs.Store.Holders
import JobQueue.Proofs.Client.Duplicates
import JobQueue.Proofs.Client.Lasting
import JobQueue.Proofs.Client.Resubmission
import JobQueue.Proofs.Client.Tending
import JobQueue.Proofs.Job.Document
import JobQueue.Proofs.Metrics.Agreement
import JobQueue.Proofs.Worker.Attempts
import JobQueue.Proofs.Worker.Faults
import JobQueue.Proofs.Pool.Vigil
import JobQueue.Proofs.Pool.Shutdown
import JobQueue.Proofs.Store.ClaimOrder
import JobQueue.Proofs.Store.Replacement
import JobQueue.Proofs.Store.ExpiredLocks
import JobQueue.Proofs.Worker.Round
import JobQueue.Proofs.Client.Attained
import JobQueue.Proofs.Interleaving.Filing
import JobQueue.Proofs.Client.Retry
import JobQueue.Proofs.Binary64.Order
import JobQueue.Proofs.Binary64.Power
import JobQueue.Proofs.Backoff
import JobQueue.Proofs.Store.Listing
import JobQueue.Proofs.DeadLetter.Pruning
import JobQueue.Proofs.Client.Snapshot
import JobQueue.Proofs.Worker.Routing
import JobQueue.Proofs.Time.Deadlines
import JobQueue.Proofs.Pool.Names
import JobQueue.Proofs.Settings.Prefix
import JobQueue.Proofs.Settings.Frame
