import JobQueue.Job.Document

/-!
# Submissions and listings

What a client asks for: a new job, or a list of jobs that match a filter.
-/

namespace JobQueue

open Document

/-- A submission. Attempts and rank that are not asked for come from the configuration and the
normal tier. -/
structure NewJob where
  jobType : String
  payload : Json
  maxAttempts : Option UInt32
  priority : Option Priority

namespace NewJob

/-- Takes the fields of a submission. -/
def reader : RecordReader Json NewJob := do
  let jobType ← field "job_type" string?
  let payload ← field "payload" json?
  let maxAttempts ← optional "max_attempts" uint32?
  let priority ← optional "priority" Priority.ofJson?
  pure { jobType, payload, maxAttempts, priority }

/-- The submission a document holds. -/
def ofJson? (j : Json) : Option NewJob := record? reader j

/-- The document of a submission. -/
def toJson (r : NewJob) : Json :=
  .object [
    ("job_type", .string r.jobType),
    ("payload", r.payload),
    ("max_attempts", Json.ofOption ofUInt32 r.maxAttempts),
    ("priority", Json.ofOption Priority.toJson r.priority)]

end NewJob

/-- Which jobs to list, and how many at most. -/
structure JobFilter where
  status : Option Status
  jobType : Option String
  limit : Option UInt64

namespace JobFilter

/-- Every job, up to the standard limit. -/
def all : JobFilter := ⟨none, none, none⟩

/-- The limit that holds: 100 unless another one is asked for, and never more than 1000. -/
def effectiveLimit (f : JobFilter) : Nat := Nat.min ((f.limit.map UInt64.toNat).getD 100) 1000

/-- Whether a job is of the state and the type asked for. -/
def accepts (f : JobFilter) (job : Job) : Bool :=
  (match f.status with | none => true | some status => job.status = status) &&
    (match f.jobType with | none => true | some jobType => job.jobType = jobType)

/-- Takes the fields of a filter. -/
def reader : RecordReader Json JobFilter := do
  let status ← optional "status" Status.ofJson?
  let jobType ← optional "job_type" string?
  let limit ← optional "limit" uint64?
  pure { status, jobType, limit }

/-- The filter a document holds. -/
def ofJson? (j : Json) : Option JobFilter := record? reader j

/-- The document of a filter. -/
def toJson (f : JobFilter) : Json :=
  .object [
    ("status", Json.ofOption Status.toJson f.status),
    ("job_type", Json.ofOption .string f.jobType),
    ("limit", Json.ofOption ofUInt64 f.limit)]

end JobFilter

end JobQueue
