import JobQueue.Job.Basic

/-!
# Jobs as documents

The stored form of a job: an object with one member for each field, absent values as null. The
fields are read in the order in which the job declares them.
-/

namespace JobQueue

open Document

/-- A rank as a whole number. -/
def Priority.ofJson? (j : Json) : Option Priority := (int32? j).map Priority.mk

/-- A rank as a whole number. -/
def Priority.toJson (p : Priority) : Json := Json.ofInt p.toInt

namespace Job

/-- Takes the fields of a job. -/
def reader : RecordReader Json Job := do
  let id ← field "id" uuid?
  let jobType ← field "job_type" string?
  let status ← field "status" Status.ofJson?
  let payload ← field "payload" json?
  let result ← optional "result" json?
  let attempts ← field "attempts" uint32?
  let maxAttempts ← field "max_attempts" uint32?
  let priority ← field "priority" Priority.ofJson?
  let availableAt ← field "available_at" instant?
  let lockOwner ← optional "lock_owner" string?
  let lockedAt ← optional "locked_at" instant?
  let lastHeartbeatAt ← optional "last_heartbeat_at" instant?
  let visibilityTimeoutMs ← field "visibility_timeout_ms" uint64?
  let error ← optional "error" Failure.ofJson?
  let idempotencyKey ← optional "idempotency_key" string?
  let startedAt ← optional "started_at" instant?
  let finishedAt ← optional "finished_at" instant?
  let createdAt ← field "created_at" instant?
  let updatedAt ← field "updated_at" instant?
  pure
    { id, jobType, status, payload, result, attempts, maxAttempts, priority, availableAt, lockOwner,
      lockedAt, lastHeartbeatAt, visibilityTimeoutMs, error, idempotencyKey, startedAt, finishedAt,
      createdAt, updatedAt }

/-- The job a document holds. -/
def ofJson? (j : Json) : Option Job := record? reader j

/-- The document of a job. -/
def toJson (job : Job) : Json :=
  .object [
    ("id", ofUuid job.id),
    ("job_type", .string job.jobType),
    ("status", job.status.toJson),
    ("payload", job.payload),
    ("result", job.result.getD .null),
    ("attempts", ofUInt32 job.attempts),
    ("max_attempts", ofUInt32 job.maxAttempts),
    ("priority", job.priority.toJson),
    ("available_at", ofInstant job.availableAt),
    ("lock_owner", Json.ofOption .string job.lockOwner),
    ("locked_at", Json.ofOption ofInstant job.lockedAt),
    ("last_heartbeat_at", Json.ofOption ofInstant job.lastHeartbeatAt),
    ("visibility_timeout_ms", ofUInt64 job.visibilityTimeoutMs),
    ("error", Json.ofOption Failure.toJson job.error),
    ("idempotency_key", Json.ofOption .string job.idempotencyKey),
    ("started_at", Json.ofOption ofInstant job.startedAt),
    ("finished_at", Json.ofOption ofInstant job.finishedAt),
    ("created_at", ofInstant job.createdAt),
    ("updated_at", ofInstant job.updatedAt)]

end Job

end JobQueue
