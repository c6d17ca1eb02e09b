import JobQueue.Client.Basic

/-!
# The dead-letter queue

Jobs that failed for good are copied into dead-letter records. A record can be submitted again as a
new job, which counts on the record; it can be deleted; and records are pruned once they are older
than they are kept.

* `DeadLetterQueue.moveJob` makes the record of a failed job.
* `DeadLetterQueue.retry` submits a record again. The count goes up only once the new job is stored.
* `DeadLetterQueue.prune` removes old records.
-/

namespace JobQueue

/-- The operations on dead-letter records, with the client that submits them again. -/
structure DeadLetterQueue where
  client : Client

/-- A record after it was submitted again, and the job that it became. -/
structure Resubmission where
  record : DeadLetter
  newJob : Uuid

/-- The document of a submission of a record. -/
def Resubmission.toJson (r : Resubmission) : Json :=
  .object [("dead_letter", r.record.toJson), ("new_job_id", Document.ofUuid r.newJob)]

namespace DeadLetterQueue

variable {handler : Type}

/-- Makes the record of a failed job. -/
def moveJob (job : Job) : QueueProgram handler DeadLetter := do
  let now ← QueueProgram.now
  let id ← QueueProgram.freshId
  let record ← QueueProgram.within (.deadLetters "move")
    (QueueProgram.call (.insertDeadLetter (.ofJob id job now)))
  QueueProgram.tell .warn "job moved to dead-letter queue"
    [("job_id", .text job.id.text), ("job_type", .text job.jobType),
      ("attempts", .number job.attempts.toNat), ("dead_letter_id", .text record.id.text),
      ("error_code", .text ((job.error.map Failure.code).getD ""))]
  pure record

/-- The records that match a filter, the newest first. -/
def list (filter : DeadLetterFilter) : QueueProgram handler (List DeadLetter) :=
  QueueProgram.call (.listDeadLetters filter)

/-- The record with an identifier. -/
def get (id : Uuid) : QueueProgram handler DeadLetter := do
  match ← QueueProgram.call (.findDeadLetter id) with
  | some record => pure record
  | none => throw (.deadLetterNotFound id)

/-- The submission of a record. -/
def resubmission (record : DeadLetter) : NewJob :=
  ⟨record.jobType, record.payload, some record.maxAttempts, some record.priority⟩

/-- Submits a record again as a new job. -/
def retry (q : DeadLetterQueue) (id : Uuid) : QueueProgram handler Resubmission :=
  QueueProgram.within (.deadLetters "retry") do
    let record ← get id
    let job ← q.client.enqueue (resubmission record)
    let now ← QueueProgram.now
    match ← QueueProgram.call (.incrementRetryCount id now) with
    | none => throw (.deadLetterNotFound id)
    | some record =>
      QueueProgram.tell .info "dead-letter record re-enqueued"
        [("dead_letter_id", .text id.text), ("new_job_id", .text job.id.text),
          ("retry_count", .number record.retryCount.toNat)]
      pure ⟨record, job.id⟩

/-- Removes a record. -/
def delete (id : Uuid) : QueueProgram handler Unit := do
  let deleted ← QueueProgram.within (.deadLetters "delete")
    (QueueProgram.call (.deleteDeadLetter id))
  if deleted then
    QueueProgram.tell .info "dead-letter record deleted" [("dead_letter_id", .text id.text)]
  else throw (.deadLetterNotFound id)

/-- Removes the records that were made more than so many days ago. When no representable time lies
so far back, nothing is removed. -/
def prune (retentionDays : UInt32) : QueueProgram handler UInt64 := do
  let now ← QueueProgram.now
  match now.daysBefore? retentionDays.toNat with
  | none =>
    QueueProgram.tell .debug "retention window exceeds time range, nothing to prune"
      [("retention_days", .number retentionDays.toNat)]
    pure 0
  | some cutoff =>
    let removed ← QueueProgram.within (.deadLetters "prune")
      (QueueProgram.call (.deleteDeadLettersBefore cutoff))
    QueueProgram.lift (Program.reportPruned removed retentionDays)
    pure removed

/-- The number of records. -/
def count : QueueProgram handler UInt64 := QueueProgram.call .countDeadLetters

/-- The view for inspection. -/
def inspect (q : DeadLetterQueue) : String :=
  Text.inspectRecord "DeadLetterQueue" [("client", q.client.inspect)] true

end DeadLetterQueue

end JobQueue
