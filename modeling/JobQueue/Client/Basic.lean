import JobQueue.Fingerprint
import JobQueue.Job.Request
import JobQueue.Program.Report
import JobQueue.Settings.Basic
import JobQueue.Text.Blank

/-!
# Clients

A client submits jobs and looks them up. A submission is checked first: its type, trimmed, must not
be empty, its payload must be an object, and it must ask for at least one attempt. The job that is
made of it carries the fingerprint of its type and payload as its key, so that the store refuses it
while an equal job has not failed.

* `Client.check` is the check.
* `Client.enqueue` submits a job.
* `Client.getJob`, `Client.listJobs` and `Client.snapshot` look at the jobs there are.
-/

namespace JobQueue

/-- What a client works with: the settings that jobs are stamped from, and whether its snapshots
count dead-letter records. -/
structure Client where
  settings : Settings
  countsDeadLetters : Bool

namespace Client

variable {handler : Type}

/-- A submission that passed its check: the type trimmed, and the attempts settled. -/
structure Admitted where
  jobType : String
  payload : Json
  maxAttempts : UInt32
  priority : Priority

/-- Checks a submission. -/
def check (c : Client) (r : NewJob) : Except QueueError Admitted :=
  let jobType := Text.trim r.jobType
  let maxAttempts := r.maxAttempts.getD c.settings.defaultMaxAttempts
  if jobType.isEmpty then .error (.invalidJobType "job type must not be empty")
  else if !r.payload.isObject then .error (.invalidPayload "payload must be a JSON object")
  else if maxAttempts = 0 then .error (.invalidPayload "max_attempts must be at least 1")
  else .ok ⟨jobType, r.payload, maxAttempts, r.priority.getD .normal⟩

/-- The job that is made of a submission. -/
def stamp (c : Client) (a : Admitted) (id : Uuid) (now : Instant) : Job :=
  { Job.queued id a.jobType a.payload now with
    maxAttempts := a.maxAttempts
    priority := a.priority
    visibilityTimeoutMs := c.settings.visibilityTimeoutMs
    idempotencyKey := some (fingerprint a.jobType a.payload) }

/-- Puts a job into the store, and tells when it is refused as a duplicate. -/
def insert (job : Job) : QueueProgram handler Job := do
  match ← QueueProgram.attempt (.insert job) with
  | .ok job => pure job
  | .error e =>
    if e.isConflict then
      QueueProgram.tell .warn "rejected duplicate job" [("error", .text e.message)]
    throw e

/-- Submits a job. -/
def enqueue (c : Client) (r : NewJob) : QueueProgram handler Job :=
  QueueProgram.within (.enqueue r.jobType (r.priority.getD .normal)) do
    let admitted ← QueueProgram.settled (c.check r)
    let now ← QueueProgram.now
    let id ← QueueProgram.freshId
    let job ← insert (c.stamp admitted id now)
    QueueProgram.lift (Program.reportEnqueued job)
    pure job

/-- The job with an identifier. -/
def getJob (id : Uuid) : QueueProgram handler Job := do
  match ← QueueProgram.call (.find id) with
  | some job => pure job
  | none => throw (.jobNotFound id)

/-- The jobs that match a filter, the newest first. -/
def listJobs (filter : JobFilter) : QueueProgram handler (List Job) :=
  QueueProgram.call (.list filter)

/-- The counts of all jobs, and of the dead-letter records if the client counts them. -/
def snapshot (c : Client) : QueueProgram handler Snapshot := do
  let now ← QueueProgram.now
  let snapshot ← QueueProgram.call (.snapshot now)
  if c.countsDeadLetters then
    let count ← QueueProgram.call .countDeadLetters
    pure { snapshot with deadLetters := count }
  else pure snapshot

/-- The view for inspection. -/
def inspect (c : Client) : String :=
  Text.inspectRecord "JobClient"
    [("dead_letters_set", if c.countsDeadLetters then "true" else "false"),
      ("config", c.settings.inspect)]

end Client

end JobQueue
