import JobQueue.Program.Basic

/-!
# What programs tell and count

The spans that the work of the queue is done in, and the events that are told and counted together,
so that the log and the metrics never disagree on what happened.
-/

namespace JobQueue

/-! ## Spans -/

namespace Span

/-- A submission. -/
def enqueue (jobType : String) (priority : Priority) : Span :=
  ⟨"drover.enqueue", [("job_type", .text jobType), ("priority", .text priority.text)]⟩

/-- The pass over expired locks and the claim of a worker. -/
def claim (worker : String) : Span := ⟨"drover.claim", [("worker_id", .text worker)]⟩

/-- The fields that name an attempt. -/
def attemptFields (job : Job) : Fields :=
  [("job_id", .text job.id.text), ("job_type", .text job.jobType),
    ("attempts", .number job.attempts.toNat)]

/-- A run of a handler. -/
def dispatch (job : Job) : Span := ⟨"drover.dispatch", attemptFields job⟩

/-- The end of an attempt. -/
def finalize (job : Job) : Span := ⟨"drover.finalize", attemptFields job⟩

/-- The renewals of a lock. -/
def heartbeat (job : Uuid) (worker : String) : Span :=
  ⟨"drover.heartbeat", [("job_id", .text job.text), ("worker_id", .text worker)]⟩

/-- An operation on dead-letter records. -/
def deadLetters (operation : String) : Span := ⟨"drover.dlq", [("operation", .text operation)]⟩

end Span

/-! ## Events that are counted -/

namespace Program

variable {handler : Type}

/-- A job was accepted. -/
def reportEnqueued (job : Job) : Program handler Unit := do
  tell .info "job enqueued" [("job_id", .text job.id.text), ("job_type", .text job.jobType)]
  measure (.enqueued job.jobType)

/-- An attempt ended. -/
def reportFinalized (job : Job) (outcome : String) : Program handler Unit := do
  tell .info "job finalized"
    [("job_id", .text job.id.text), ("job_type", .text job.jobType), ("status", .text outcome)]
  measure (.finalized job.jobType outcome)

/-- A pass took expired locks back. -/
def reportReleased (worker : String) (requeued exhausted : UInt64) : Program handler Unit := do
  tell .warn "released jobs with expired locks"
    [("worker_id", .text worker), ("requeued", .number requeued.toNat),
      ("exhausted", .number exhausted.toNat)]
  measure (.released (requeued + exhausted))

/-- Dead-letter records were pruned. -/
def reportPruned (removed : UInt64) (retentionDays : UInt32) : Program handler Unit := do
  let days := ("retention_days", FieldValue.number retentionDays.toNat)
  if 0 < removed then
    tell .info "pruned dead-letter records" [("removed", .number removed.toNat), days]
  else tell .debug "no dead-letter records to prune" [days]
  measure (.pruned removed)

/-- A handler ran for so many nanoseconds. -/
def reportDuration (jobType outcome : String) (nanoseconds : Nat) : Program handler Unit := do
  tell .debug "job duration observed"
    [("job_type", .text jobType), ("status", .text outcome),
      ("duration_ms", .number (nanoseconds / 1000000 % Word.size 64))]
  measure (.duration jobType outcome nanoseconds)

end Program

end JobQueue
