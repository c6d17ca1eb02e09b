import JobQueue.Job.Request
import JobQueue.DeadLetter.Record
import JobQueue.Store.Snapshot
import JobQueue.Error
import JobQueue.Text.Inspect

/-!
# The store

A store holds jobs, an index from idempotency keys to the jobs that hold them, and dead-letter
records. Each operation is one function from the store to its answer and the next store, so that a
run of the queue is a sequence of such steps, however its workers interleave.

A worker that claimed a job holds its lock. Renewing the lock and the three ways to end an attempt
are accepted only while the job is `processing` and the worker owns the lock; otherwise they answer
that nothing was written, and nothing is.

* `Store.insert` adds a job unless its key is taken.
* `Store.claimNext` hands out the first claimable job.
* `Store.heartbeat`, `Store.markSucceeded`, `Store.markRetry` and `Store.markFailed` are the calls
  of the owner.
* `Store.releaseStuck` takes the lock from owners that let it run out.
-/

namespace JobQueue

/-- Jobs, the index of their idempotency keys, and dead-letter records. No two jobs have the same
identifier and no two records have; the order of the lists is that of insertion, and no answer
depends on it. -/
structure Store where
  jobs : List Job
  keys : List (String × Uuid)
  deadLetters : List DeadLetter
  deriving DecidableEq

/-- What a pass over expired locks did. -/
structure StuckRelease where
  /-- How many jobs were queued again. -/
  requeued : UInt64
  /-- The jobs that had no attempts left, as they are stored now. -/
  exhausted : List Job
  deriving DecidableEq

/-- Whether the pass found nothing to do. -/
def StuckRelease.isEmpty (r : StuckRelease) : Bool := r.requeued = 0 && r.exhausted.isEmpty

namespace Store

/-- A store with nothing in it. -/
def empty : Store := ⟨[], [], []⟩

/-! ## Jobs and keys -/

/-- The number of jobs, in any state. -/
def jobCount (s : Store) : Nat := s.jobs.length

/-- The job with this identifier. -/
def find? (s : Store) (id : Uuid) : Option Job := s.jobs.find? fun job => job.id = id

/-- Entries with one entry put in: in the place of the entry with its identifier, or at the end. -/
def putBy {α : Type} (id : α → Uuid) (entry : α) : List α → List α
  | [] => [entry]
  | other :: rest => if id other = id entry then entry :: rest else other :: putBy id entry rest

/-- The jobs with one job put in. -/
def putJob (job : Job) (jobs : List Job) : List Job := putBy Job.id job jobs

/-- The job that holds a key. -/
def holder? (s : Store) (key : String) : Option Uuid :=
  (s.keys.find? fun e => e.1 = key).map (·.2)

/-- The index without the key of a job, if the index gives the key to this job. -/
def releaseKey (keys : List (String × Uuid)) (job : Job) : List (String × Uuid) :=
  match job.idempotencyKey with
  | none => keys
  | some key => keys.filter fun e => !(e.1 = key && e.2 = job.id)

/-- Adds a job, unless another one holds its key. -/
def insert (s : Store) (job : Job) : Except QueueError Job × Store :=
  match job.idempotencyKey with
  | none => (.ok job, { s with jobs := putJob job s.jobs })
  | some key =>
    if (s.holder? key).isSome then (.error (.conflict job.jobType key), s)
    else (.ok job, { s with jobs := putJob job s.jobs, keys := (key, job.id) :: s.keys })

/-- Whether the first of two jobs is listed first: the one created later, of two created at one
time the one with the larger identifier. -/
def listedBefore (a b : Job) : Bool :=
  b.createdAt < a.createdAt || (a.createdAt = b.createdAt && b.id.toNat ≤ a.id.toNat)

/-- The jobs that match a filter, the newest first. -/
def list (s : Store) (filter : JobFilter) : List Job :=
  ((s.jobs.filter filter.accepts).mergeSort listedBefore).take filter.effectiveLimit

/-! ## Claims -/

/-- Whether the first of two jobs is claimed first: by rank, then by the time it became available,
then by the time it was created, then by identifier. -/
def claimedBefore (a b : Job) : Bool :=
  a.priority.toInt < b.priority.toInt || (a.priority = b.priority &&
    (a.availableAt < b.availableAt || (a.availableAt = b.availableAt &&
      (a.createdAt < b.createdAt || (a.createdAt = b.createdAt && a.id.toNat < b.id.toNat)))))

/-- The first in the order of claims. -/
def firstOf : List Job → Option Job
  | [] => none
  | job :: rest =>
    some (rest.foldl (fun best other => if claimedBefore other best then other else best) job)

/-- The claimable job that goes first. -/
def nextClaimable? (s : Store) (now : Instant) : Option Job :=
  firstOf (s.jobs.filter fun job => job.isClaimable now)

/-- A job as its claim by a worker leaves it. -/
def claimed (job : Job) (worker : String) (now : Instant) : Job :=
  { job with
    status := .processing
    lockOwner := some worker
    lockedAt := some now
    lastHeartbeatAt := some now
    startedAt := some (job.startedAt.getD now)
    attempts := job.attempts + 1
    updatedAt := now }

/-- Hands the first claimable job to a worker. -/
def claimNext (s : Store) (worker : String) (now : Instant) : Option Job × Store :=
  match s.nextClaimable? now with
  | none => (none, s)
  | some job =>
    let job := claimed job worker now
    (some job, { s with jobs := putJob job s.jobs })

/-! ## The calls of the owner -/

/-- The job with this identifier, if the worker holds its lock. -/
def lockedBy? (s : Store) (id : Uuid) (worker : String) : Option Job :=
  (s.find? id).filter fun job => job.isLockedBy worker

/-- Changes a job that the worker holds, and answers whether it does. -/
def updateLocked (s : Store) (id : Uuid) (worker : String) (change : Job → Job) : Bool × Store :=
  match s.lockedBy? id worker with
  | none => (false, s)
  | some job => (true, { s with jobs := putJob (change job) s.jobs })

/-- A job with its lock renewed. -/
def renewed (job : Job) (now : Instant) : Job :=
  { job with lockedAt := some now, lastHeartbeatAt := some now, updatedAt := now }

/-- Renews the lock. -/
def heartbeat (s : Store) (id : Uuid) (worker : String) (now : Instant) : Bool × Store :=
  s.updateLocked id worker fun job => renewed job now

/-- A job as it is stored once its handler gave a value. -/
def succeeded (job : Job) (result : Json) (now : Instant) : Job :=
  Job.clearLock
    { job with
      status := .succeeded
      result := some result
      error := none
      finishedAt := some now
      updatedAt := now }

/-- Ends the attempt with a result. -/
def markSucceeded (s : Store) (id : Uuid) (worker : String) (result : Json) (now : Instant) :
    Bool × Store :=
  s.updateLocked id worker fun job => succeeded job result now

/-- A job that failed and is to be tried again from `availableAt` on. -/
def retried (job : Job) (error : Failure) (availableAt now : Instant) : Job :=
  Job.clearLock
    { job with
      status := .queued
      error := some error
      availableAt := availableAt
      updatedAt := now }

/-- Ends the attempt with a failure, to be tried again from `availableAt` on. -/
def markRetry (s : Store) (id : Uuid) (worker : String) (error : Failure)
    (availableAt now : Instant) : Bool × Store :=
  s.updateLocked id worker fun job => retried job error availableAt now

/-- A job as it is stored once it failed for good. -/
def failed (job : Job) (error : Failure) (now : Instant) : Job :=
  Job.clearLock
    { job with
      status := .failed
      error := some error
      finishedAt := some now
      updatedAt := now
      idempotencyKey := none }

/-- Ends the last attempt with a failure, and gives the key of the job free. -/
def markFailed (s : Store) (id : Uuid) (worker : String) (error : Failure) (now : Instant) :
    Option Job × Store :=
  match s.lockedBy? id worker with
  | none => (none, s)
  | some job =>
    let after := failed job error now
    (some after, { s with jobs := putJob after s.jobs, keys := releaseKey s.keys job })

/-! ## Expired locks -/

/-- A job whose lock ran out with attempts left. -/
def requeued (job : Job) (now : Instant) : Job :=
  Job.clearLock { job with status := .queued, updatedAt := now }

/-- A job whose lock ran out on its last attempt. -/
def exhausted (job : Job) (now : Instant) : Job :=
  failed job (Failure.visibilityTimeout job.lockOwner) now

/-- A job after a pass over expired locks. -/
def released (job : Job) (now : Instant) : Job :=
  if job.lockExpired now then
    if job.hasAttemptsRemaining then requeued job now else exhausted job now
  else job

/-- Takes every lock that ran out before this time. Jobs with attempts left are queued again; the
others fail. -/
def releaseStuck (s : Store) (now : Instant) : StuckRelease × Store :=
  let expired := s.jobs.filter fun job => job.lockExpired now
  let (spared, spent) := expired.partition Job.hasAttemptsRemaining
  ({ requeued := UInt64.ofNat spared.length, exhausted := spent.map fun job => exhausted job now },
    { s with
      jobs := s.jobs.map fun job => released job now
      keys := spent.foldl releaseKey s.keys })

/-! ## Counts -/

/-- The counts of all jobs. -/
def snapshot (s : Store) (now : Instant) : Snapshot :=
  s.jobs.foldl (fun acc job => acc.add job.jobType job.status 1) (Snapshot.empty now)

/-! ## Dead-letter records -/

/-- The records with one record put in. -/
def putDeadLetter (r : DeadLetter) (records : List DeadLetter) : List DeadLetter :=
  putBy DeadLetter.id r records

/-- The record with this identifier. -/
def findDeadLetter? (s : Store) (id : Uuid) : Option DeadLetter :=
  s.deadLetters.find? fun r => r.id = id

/-- Adds a record. -/
def insertDeadLetter (s : Store) (r : DeadLetter) : Store :=
  { s with deadLetters := putDeadLetter r s.deadLetters }

/-- Whether the first of two records is listed first: the one made later, of two made at one time
the one with the larger identifier. -/
def recordListedBefore (a b : DeadLetter) : Bool :=
  b.movedAt < a.movedAt || (a.movedAt = b.movedAt && b.id.toNat ≤ a.id.toNat)

/-- The page of the records that match a filter, the newest first. -/
def listDeadLetters (s : Store) (filter : DeadLetterFilter) : List DeadLetter :=
  (((s.deadLetters.filter filter.accepts).mergeSort recordListedBefore).drop
    filter.effectiveOffset).take filter.effectiveLimit

/-- A record that was submitted again. -/
def retriedRecord (r : DeadLetter) (now : Instant) : DeadLetter :=
  { r with retryCount := r.retryCount + 1, lastRetriedAt := some now }

/-- Counts that a record was submitted again. -/
def incrementRetryCount (s : Store) (id : Uuid) (now : Instant) : Option DeadLetter × Store :=
  match s.findDeadLetter? id with
  | none => (none, s)
  | some r =>
    let r := retriedRecord r now
    (some r, { s with deadLetters := putDeadLetter r s.deadLetters })

/-- Removes a record, and answers whether there was one. -/
def deleteDeadLetter (s : Store) (id : Uuid) : Bool × Store :=
  ((s.findDeadLetter? id).isSome,
    { s with deadLetters := s.deadLetters.filter fun r => r.id ≠ id })

/-- Removes the records made before a time, and answers how many. -/
def deleteDeadLettersBefore (s : Store) (cutoff : Instant) : UInt64 × Store :=
  let kept := s.deadLetters.filter fun r => cutoff ≤ r.movedAt
  (UInt64.ofNat (s.deadLetters.length - kept.length), { s with deadLetters := kept })

/-- The number of records. -/
def countDeadLetters (s : Store) : UInt64 := UInt64.ofNat s.deadLetters.length

/-! ## The view for inspection -/

/-- How much the store holds. -/
def inspect (s : Store) : String :=
  Text.inspectRecord "InMemoryStore"
    [("jobs", toString s.jobCount), ("dead_letters", toString s.deadLetters.length)]

end Store

end JobQueue
