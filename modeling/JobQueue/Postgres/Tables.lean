import JobQueue.DeadLetter.Record
import JobQueue.Postgres.Column
import JobQueue.Settings.Basic

/-!
# The tables of jobs and dead-letter records

How a job and a record are written into columns, and how they are read from a row. Counters are
kept in signed numbers of 32 bits, so that a counter beyond these is cut to the largest; a
visibility timeout is cut to the longest that settings admit.

* `jobBindings` and `deadLetterBindings` give the value of each column, and `jobParameters` and
  `deadLetterParameters` the values that insertions are made with.
* `jobOfRow` and `deadLetterOfRow` read rows, column by column in the order of the fields. The first
  column that cannot be read settles the error.
-/

namespace JobQueue.Postgres

/-! ## Columns -/

/-- The columns of the table of jobs. -/
def jobColumns : List (String × ColumnType) := [
  ("id", .uuid), ("job_type", .text), ("status", .text), ("payload", .jsonb), ("result", .jsonb),
  ("attempts", .int4), ("max_attempts", .int4), ("priority", .int4),
  ("available_at", .timestamptz), ("lock_owner", .text), ("locked_at", .timestamptz),
  ("last_heartbeat_at", .timestamptz), ("visibility_timeout_ms", .int8), ("error", .jsonb),
  ("idempotency_key", .text), ("started_at", .timestamptz), ("finished_at", .timestamptz),
  ("created_at", .timestamptz), ("updated_at", .timestamptz)]

/-- The columns of the table of dead-letter records. -/
def deadLetterColumns : List (String × ColumnType) := [
  ("id", .uuid), ("original_job_id", .uuid), ("job_type", .text), ("payload", .jsonb),
  ("priority", .int4), ("attempts", .int4), ("max_attempts", .int4), ("error", .jsonb),
  ("original_created_at", .timestamptz), ("moved_to_dlq_at", .timestamptz),
  ("retry_count", .int4), ("last_retried_at", .timestamptz)]

/-- Values by the name of their column. -/
abbrev Bindings := List (String × Option Datum)

/-- The row that holds these values in columns of these types. -/
def rowOf (columns : List (String × ColumnType)) (bindings : Bindings) : Row :=
  columns.map fun (name, type) =>
    (name, ⟨type, ((bindings.find? fun b => b.1 = name).map (·.2)).join⟩)

/-! ## Writing -/

/-- A counter, cut to the largest that the column holds. -/
def counterDatum (n : UInt32) : Datum := .int4 (Int32.ofNat (Nat.min n.toNat (Word.largest 31)))

/-- A visibility timeout, cut to the longest that settings admit. -/
def timeoutDatum (ms : UInt64) : Datum :=
  .int8 (Int64.ofNat (Nat.min ms.toNat Settings.maxVisibilityTimeoutMs.toNat))

/-- A failure as a document. -/
def failureDatum (f : Failure) : Datum := .json f.toJson

/-- The values of a job, in the order of its columns. -/
def jobBindings (job : Job) : Bindings := [
  ("id", some (.uuid job.id)),
  ("job_type", some (.text job.jobType)),
  ("status", some (.text job.status.text)),
  ("payload", some (.json job.payload)),
  ("result", job.result.map .json),
  ("attempts", some (counterDatum job.attempts)),
  ("max_attempts", some (counterDatum job.maxAttempts)),
  ("priority", some (.int4 job.priority.value)),
  ("available_at", some (.ofInstant job.availableAt)),
  ("lock_owner", job.lockOwner.map .text),
  ("locked_at", job.lockedAt.map .ofInstant),
  ("last_heartbeat_at", job.lastHeartbeatAt.map .ofInstant),
  ("visibility_timeout_ms", some (timeoutDatum job.visibilityTimeoutMs)),
  ("error", job.error.map failureDatum),
  ("idempotency_key", job.idempotencyKey.map .text),
  ("started_at", job.startedAt.map .ofInstant),
  ("finished_at", job.finishedAt.map .ofInstant),
  ("created_at", some (.ofInstant job.createdAt)),
  ("updated_at", some (.ofInstant job.updatedAt))]

/-- The parameters of the insertion of a job. -/
def jobParameters (job : Job) : List (Option Datum) := [
  some (.uuid job.id),
  some (.text job.jobType),
  some (.text job.status.text),
  some (.json job.payload),
  job.result.map .json,
  some (counterDatum job.attempts),
  some (counterDatum job.maxAttempts),
  some (.int4 job.priority.value),
  some (.ofInstant job.availableAt),
  job.lockOwner.map .text,
  job.lockedAt.map .ofInstant,
  job.lastHeartbeatAt.map .ofInstant,
  some (timeoutDatum job.visibilityTimeoutMs),
  job.error.map failureDatum,
  job.idempotencyKey.map .text,
  job.startedAt.map .ofInstant,
  job.finishedAt.map .ofInstant,
  some (.ofInstant job.createdAt),
  some (.ofInstant job.updatedAt)]

/-- The values of a record, in the order of its columns. -/
def deadLetterBindings (r : DeadLetter) : Bindings := [
  ("id", some (.uuid r.id)),
  ("original_job_id", some (.uuid r.jobId)),
  ("job_type", some (.text r.jobType)),
  ("payload", some (.json r.payload)),
  ("priority", some (.int4 r.priority.value)),
  ("attempts", some (counterDatum r.attempts)),
  ("max_attempts", some (counterDatum r.maxAttempts)),
  ("error", r.error.map failureDatum),
  ("original_created_at", some (.ofInstant r.jobCreatedAt)),
  ("moved_to_dlq_at", some (.ofInstant r.movedAt)),
  ("retry_count", some (counterDatum r.retryCount)),
  ("last_retried_at", r.lastRetriedAt.map .ofInstant)]

/-- The parameters of the insertion of a record. -/
def deadLetterParameters (r : DeadLetter) : List (Option Datum) := [
  some (.uuid r.id),
  some (.uuid r.jobId),
  some (.text r.jobType),
  some (.json r.payload),
  some (.int4 r.priority.value),
  some (counterDatum r.attempts),
  some (counterDatum r.maxAttempts),
  r.error.map failureDatum,
  some (.ofInstant r.jobCreatedAt),
  some (.ofInstant r.movedAt),
  some (counterDatum r.retryCount),
  r.lastRetriedAt.map .ofInstant]

/-! ## Reading -/

/-- The state that a text names. -/
def statusOf (text : String) : Except QueueError Status :=
  match Status.parse? text with
  | some status => .ok status
  | none => .error (.store (Status.parseError text))

/-- Reads a counter, which must not be negative. -/
def counterOf (row : Row) (column : String) : Except QueueError UInt32 := do
  let n ← row.required column .int4
  if n < 0 then throw (.store ("negative " ++ column ++ ": " ++ toString n.toInt))
  else pure (UInt32.ofNat n.toInt.toNat)

/-- Reads a failure, which may be absent. -/
def failureOf (row : Row) (column : String) : Except QueueError (Option Failure) := do
  match ← row.optional column .json with
  | none => pure none
  | some j =>
    match Failure.ofJson? j with
    | some f => pure (some f)
    | none => throw (.serialization "not a failure")

/-- The number of a cell as a count; a negative one counts for nothing. -/
def countOf (n : Int64) : UInt64 := UInt64.ofNat n.toInt.toNat

/-- Reads a job from a row. -/
def jobOfRow (row : Row) : Except QueueError Job := do
  let statusText ← row.required "status" .text
  let timeout ← row.required "visibility_timeout_ms" .int8
  let id ← row.required "id" .uuid
  let jobType ← row.required "job_type" .text
  let status ← statusOf statusText
  let payload ← row.required "payload" .json
  let result ← row.optional "result" .json
  let attempts ← counterOf row "attempts"
  let maxAttempts ← counterOf row "max_attempts"
  let priority ← row.required "priority" .int4
  let availableAt ← row.required "available_at" .instant
  let lockOwner ← row.optional "lock_owner" .text
  let lockedAt ← row.optional "locked_at" .instant
  let lastHeartbeatAt ← row.optional "last_heartbeat_at" .instant
  let error ← failureOf row "error"
  let idempotencyKey ← row.optional "idempotency_key" .text
  let startedAt ← row.optional "started_at" .instant
  let finishedAt ← row.optional "finished_at" .instant
  let createdAt ← row.required "created_at" .instant
  let updatedAt ← row.required "updated_at" .instant
  pure
    { id, jobType, status, payload, result, attempts, maxAttempts, priority := ⟨priority⟩,
      availableAt, lockOwner, lockedAt, lastHeartbeatAt, visibilityTimeoutMs := countOf timeout,
      error, idempotencyKey, startedAt, finishedAt, createdAt, updatedAt }

/-- Reads a record from a row. -/
def deadLetterOfRow (row : Row) : Except QueueError DeadLetter := do
  let id ← row.required "id" .uuid
  let jobId ← row.required "original_job_id" .uuid
  let jobType ← row.required "job_type" .text
  let payload ← row.required "payload" .json
  let priority ← row.required "priority" .int4
  let attempts ← counterOf row "attempts"
  let maxAttempts ← counterOf row "max_attempts"
  let error ← failureOf row "error"
  let jobCreatedAt ← row.required "original_created_at" .instant
  let movedAt ← row.required "moved_to_dlq_at" .instant
  let retryCount ← counterOf row "retry_count"
  let lastRetriedAt ← row.optional "last_retried_at" .instant
  pure
    { id, jobId, jobType, payload, priority := ⟨priority⟩, attempts, maxAttempts, error,
      jobCreatedAt, movedAt, retryCount, lastRetriedAt }

end JobQueue.Postgres
