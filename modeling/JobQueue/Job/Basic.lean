import JobQueue.Job.Status
import JobQueue.Job.Failure

/-!
# Jobs

A job is a document: what is to be done, how far it got, and who holds it. This module holds the
document and the three questions that a store asks of it.

* `Job.isClaimable`: is it queued, and has its time come?
* `Job.isLockedBy`: does this worker hold its lock?
* `Job.lockExpired`: has its lock gone unrenewed for longer than the visibility timeout?
-/

namespace JobQueue

/-- A rank among jobs that could be claimed; lower ranks go first. -/
structure Priority where
  value : Int32
  deriving DecidableEq

namespace Priority

/-- Ahead of the normal tier. -/
def high : Priority := ⟨1⟩

/-- The tier of jobs that ask for none. -/
def normal : Priority := ⟨5⟩

/-- Behind the normal tier. -/
def low : Priority := ⟨10⟩

/-- The rank as an integer. -/
def toInt (p : Priority) : Int := p.value.toInt

/-- The rank in decimal. -/
def text (p : Priority) : String := toString p.toInt

end Priority

/-- A unit of work. -/
structure Job where
  id : Uuid
  /-- Names the handler. -/
  jobType : String
  status : Status
  /-- The input of the handler. -/
  payload : Json
  /-- What a successful handler returned. -/
  result : Option Json
  /-- The claims made so far. -/
  attempts : UInt32
  /-- The claims after which a failure is final. -/
  maxAttempts : UInt32
  priority : Priority
  /-- The job cannot be claimed before. -/
  availableAt : Instant
  /-- The worker that holds the lock. -/
  lockOwner : Option String
  /-- When the lock was taken or renewed last. -/
  lockedAt : Option Instant
  lastHeartbeatAt : Option Instant
  /-- How long the lock lasts without being renewed. -/
  visibilityTimeoutMs : UInt64
  /-- The last failure. -/
  error : Option Failure
  /-- The fingerprint of the submission, until the job fails. -/
  idempotencyKey : Option String
  startedAt : Option Instant
  finishedAt : Option Instant
  createdAt : Instant
  updatedAt : Instant
  deriving DecidableEq

namespace Job

/-- A job as it is first submitted: queued, with three attempts and a lock of a minute. -/
def queued (id : Uuid) (jobType : String) (payload : Json) (now : Instant) : Job where
  id := id
  jobType := jobType
  status := .queued
  payload := payload
  result := none
  attempts := 0
  maxAttempts := 3
  priority := .normal
  availableAt := now
  lockOwner := none
  lockedAt := none
  lastHeartbeatAt := none
  visibilityTimeoutMs := 60000
  error := none
  idempotencyKey := none
  startedAt := none
  finishedAt := none
  createdAt := now
  updatedAt := now

/-- Whether the job may be claimed once more. -/
def hasAttemptsRemaining (job : Job) : Bool := job.attempts < job.maxAttempts

/-- Whether the job can be claimed at this time. -/
def isClaimable (job : Job) (now : Instant) : Bool :=
  job.status = .queued && decide (job.availableAt ≤ now)

/-- Whether this worker holds the lock. -/
def isLockedBy (job : Job) (worker : String) : Bool :=
  job.status = .processing && job.lockOwner = some worker

/-- Whether the lock ran out before this time. A lock that would last beyond the range of instants
never runs out. -/
def lockExpired (job : Job) (now : Instant) : Bool :=
  match job.status, job.lockedAt with
  | .processing, some lockedAt =>
    match lockedAt.afterMs? job.visibilityTimeoutMs.toNat with
    | some deadline => deadline < now
    | none => false
  | _, _ => false

/-- The job with its lock given up. -/
def clearLock (job : Job) : Job :=
  { job with lockOwner := none, lockedAt := none, lastHeartbeatAt := none }

end Job

end JobQueue
