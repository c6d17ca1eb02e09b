import JobQueue.Job.Document

/-!
# Dead-letter records

A job that failed for good is copied into a record of its own, which can be listed, submitted again
or deleted while the failed job stays as it is.
-/

namespace JobQueue

open Document

/-- A copy of a job that failed for good. -/
structure DeadLetter where
  id : Uuid
  /-- The failed job. -/
  jobId : Uuid
  jobType : String
  payload : Json
  priority : Priority
  attempts : UInt32
  maxAttempts : UInt32
  error : Option Failure
  jobCreatedAt : Instant
  /-- When the record was made. -/
  movedAt : Instant
  /-- How often the record was submitted again. -/
  retryCount : UInt32
  lastRetriedAt : Option Instant
  deriving DecidableEq

namespace DeadLetter

/-- The record of a failed job. -/
def ofJob (id : Uuid) (job : Job) (now : Instant) : DeadLetter where
  id := id
  jobId := job.id
  jobType := job.jobType
  payload := job.payload
  priority := job.priority
  attempts := job.attempts
  maxAttempts := job.maxAttempts
  error := job.error
  jobCreatedAt := job.createdAt
  movedAt := now
  retryCount := 0
  lastRetriedAt := none

/-- Takes the fields of a record. -/
def reader : RecordReader Json DeadLetter := do
  let id ← field "id" uuid?
  let jobId ← field "original_job_id" uuid?
  let jobType ← field "job_type" string?
  let payload ← field "payload" json?
  let priority ← field "priority" Priority.ofJson?
  let attempts ← field "attempts" uint32?
  let maxAttempts ← field "max_attempts" uint32?
  let error ← optional "error" Failure.ofJson?
  let jobCreatedAt ← field "original_created_at" instant?
  let movedAt ← field "moved_to_dlq_at" instant?
  let retryCount ← field "retry_count" uint32?
  let lastRetriedAt ← optional "last_retried_at" instant?
  pure
    { id, jobId, jobType, payload, priority, attempts, maxAttempts, error,
      jobCreatedAt, movedAt, retryCount, lastRetriedAt }

/-- The record a document holds. -/
def ofJson? (j : Json) : Option DeadLetter := record? reader j

/-- The document of a record. -/
def toJson (r : DeadLetter) : Json :=
  .object [
    ("id", ofUuid r.id),
    ("original_job_id", ofUuid r.jobId),
    ("job_type", .string r.jobType),
    ("payload", r.payload),
    ("priority", r.priority.toJson),
    ("attempts", ofUInt32 r.attempts),
    ("max_attempts", ofUInt32 r.maxAttempts),
    ("error", Json.ofOption Failure.toJson r.error),
    ("original_created_at", ofInstant r.jobCreatedAt),
    ("moved_to_dlq_at", ofInstant r.movedAt),
    ("retry_count", ofUInt32 r.retryCount),
    ("last_retried_at", Json.ofOption ofInstant r.lastRetriedAt)]

end DeadLetter

/-- Which records to list: of which type, and which page. -/
structure DeadLetterFilter where
  jobType : Option String
  limit : Option UInt64
  offset : Option UInt64

namespace DeadLetterFilter

/-- The page size that holds: 50 unless another one is asked for, and never more than 1000. -/
def effectiveLimit (f : DeadLetterFilter) : Nat := Nat.min ((f.limit.map UInt64.toNat).getD 50) 1000

/-- How many records to skip. -/
def effectiveOffset (f : DeadLetterFilter) : Nat := (f.offset.map UInt64.toNat).getD 0

/-- Whether a record is of the type asked for. -/
def accepts (f : DeadLetterFilter) (r : DeadLetter) : Bool :=
  match f.jobType with
  | none => true
  | some jobType => r.jobType = jobType

/-- Takes the fields of a filter. -/
def reader : RecordReader Json DeadLetterFilter := do
  let jobType ← optional "job_type" string?
  let limit ← optional "limit" uint64?
  let offset ← optional "offset" uint64?
  pure { jobType, limit, offset }

/-- The filter a document holds. -/
def ofJson? (j : Json) : Option DeadLetterFilter := record? reader j

/-- The document of a filter. -/
def toJson (f : DeadLetterFilter) : Json :=
  .object [
    ("job_type", Json.ofOption .string f.jobType),
    ("limit", Json.ofOption ofUInt64 f.limit),
    ("offset", Json.ofOption ofUInt64 f.offset)]

end DeadLetterFilter

end JobQueue
