import JobQueue.DeadLetter.Queue
import JobQueue.Handler.Registry
import JobQueue.Worker.Outcome

/-!
# Workers

In one iteration a worker takes back the locks that ran out, claims a job, runs its handler while
the lock is renewed beside it, and writes down how that ended.

* `Worker.releaseStuck` is the pass over expired locks. Its failure does not keep the worker from
  claiming.
* `Worker.process` treats a claimed job.
* `Worker.runOnce` is one iteration.

The lock that the job was claimed with guards every write at the end: when it is gone, nothing is
written and the outcome is `lockLost`.
-/

namespace JobQueue

/-- A worker: its name, which owns the locks it takes, the settings, and its handlers. -/
structure Worker (handler : Type) where
  id : String
  settings : Settings
  registry : Registry handler

/-- The time at which a job that failed now can be claimed again: after the delay, or never before
the end of time if that comes first. -/
def retryAt (now : Instant) (nanoseconds : Nat) : Instant := (now.after? nanoseconds).getD .last

namespace Worker

variable {handler : Type}

/-! ## The end of an attempt -/

/-- The lock was gone when the attempt ended. -/
def lockLost (w : Worker handler) (job : Job) : QueueProgram handler Outcome := do
  QueueProgram.tell .warn "lock lost before finalize; outcome discarded"
    [("job_id", .text job.id.text), ("worker_id", .text w.id)]
  pure (.lockLost job.id)

/-- Ends the attempt with a value. -/
def succeed (w : Worker handler) (job : Job) (result : Json) : QueueProgram handler Outcome := do
  let now ← QueueProgram.now
  if ← QueueProgram.call (.markSucceeded job.id w.id result now) then pure (.succeeded job.id)
  else w.lockLost job

/-- Makes the record of a job that failed for good. That it could not be written is told, and is no
error of the attempt. -/
def bury (job failed : Job) : QueueProgram handler (Option Uuid) := do
  match ← QueueProgram.lift (DeadLetterQueue.moveJob failed).run with
  | .ok record => pure (some record.id)
  | .error e =>
    QueueProgram.tell .error "failed to write dead-letter record"
      [("job_id", .text job.id.text), ("error", .text e.message)]
    pure none

/-- Ends the last attempt with a failure. -/
def fail (w : Worker handler) (job : Job) (error : Failure) : QueueProgram handler Outcome := do
  let now ← QueueProgram.now
  match ← QueueProgram.call (.markFailed job.id w.id error now) with
  | none => w.lockLost job
  | some failed =>
    let record ← bury job failed
    pure (.failed job.id failed.attempts record)

/-- Ends an attempt with a failure: the job is tried again if it has attempts left. -/
def handleFailure (w : Worker handler) (job : Job) (error : Failure) :
    QueueProgram handler Outcome := do
  match decideAfterFailure job.attempts job.maxAttempts w.settings.backoff with
  | .deadLetter => w.fail job error
  | .retry delayMs =>
    let now ← QueueProgram.now
    let availableAt := retryAt now (delayMs.toNat * 1000000)
    if ← QueueProgram.call (.markRetry job.id w.id error availableAt now) then
      QueueProgram.tell .info "job scheduled for retry"
        [("job_id", .text job.id.text), ("job_type", .text job.jobType),
          ("attempts", .number job.attempts.toNat),
          ("max_attempts", .number job.maxAttempts.toNat), ("delay_ms", .number delayMs.toNat)]
      pure (.retrying job.id job.attempts delayMs)
    else w.lockLost job

/-- Ends an attempt as the handler ended. -/
def finish (w : Worker handler) (job : Job) : HandlerResult → QueueProgram handler Outcome
  | .ok value => w.succeed job value
  | .error (.error e) => do
    QueueProgram.tell .debug "handler failed"
      [("job_id", .text job.id.text), ("error", .text e.display)]
    w.handleFailure job e.toFailure
  | .error (.panic message) => do
    let message := panicMessage message
    QueueProgram.tell .error "handler panicked"
      [("job_id", .text job.id.text), ("panic", .text message)]
    w.handleFailure job (.handlerPanic message)

/-! ## An iteration -/

/-- Runs a handler while the lock of its job is renewed. -/
def dispatch (w : Worker handler) (h : handler) (job : Job) : Program handler HandlerResult := do
  Program.request (.startRenewal job.id w.id)
  let result ← Program.within (.dispatch job) (Program.request (.dispatch h job))
  match ← Program.request .stopRenewal with
  | none => pure ()
  | some why => Program.tell .warn "heartbeat task failed" [("error", .text why)]
  pure result

/-- Treats a claimed job. One whose type has no handler fails at once, whatever attempts it has
left. -/
def process (w : Worker handler) (job : Job) : QueueProgram handler Outcome := do
  match w.registry.find? job.jobType with
  | none =>
    QueueProgram.tell .warn "no handler registered for job type"
      [("job_id", .text job.id.text), ("job_type", .text job.jobType)]
    let outcome ← w.fail job (.invalidJobType job.jobType)
    QueueProgram.lift (Program.reportFinalized job outcome.label)
    pure outcome
  | some h =>
    let start ← QueueProgram.lift (Program.request .stopwatch)
    let result ← QueueProgram.lift (w.dispatch h job)
    let outcome ← QueueProgram.within (.finalize job) (w.finish job result)
    let stop ← QueueProgram.lift (Program.request .stopwatch)
    QueueProgram.lift (Program.reportDuration job.jobType outcome.label (stop - start))
    QueueProgram.lift (Program.reportFinalized job outcome.label)
    pure outcome

/-- Makes the record of a job whose last lock ran out. -/
def buryExhausted (job : Job) : Program handler Unit := do
  Program.reportFinalized job "failed"
  match ← (DeadLetterQueue.moveJob job).run with
  | .ok _ => pure ()
  | .error e =>
    Program.tell .error "failed to dead-letter timed out job"
      [("job_id", .text job.id.text), ("error", .text e.message)]

/-- Makes the records of jobs whose last locks ran out, one after the other. -/
def buryAll : List Job → Program handler Unit
  | [] => pure ()
  | job :: rest => do
    buryExhausted job
    buryAll rest

/-- The pass over expired locks. -/
def releaseStuck (w : Worker handler) : Program handler Unit := do
  let now ← Program.request .now
  match ← Program.request (.call (.releaseStuck now)) with
  | .error e =>
    Program.tell .warn "unstick pass failed"
      [("worker_id", .text w.id), ("error", .text e.message)]
  | .ok release =>
    if release.isEmpty then pure ()
    else
      Program.reportReleased w.id release.requeued (UInt64.ofNat release.exhausted.length)
      buryAll release.exhausted

/-- Takes expired locks back and claims a job. -/
def claim (w : Worker handler) : QueueProgram handler (Option Job) :=
  QueueProgram.within (.claim w.id) do
    QueueProgram.lift w.releaseStuck
    let now ← QueueProgram.now
    QueueProgram.call (.claimNext w.id now)

/-- One iteration; `none` when there was nothing to claim. -/
def runOnce (w : Worker handler) : QueueProgram handler (Option Outcome) := do
  match ← w.claim with
  | some job => some <$> w.process job
  | none =>
    QueueProgram.tell .trace "no claimable job" [("worker_id", .text w.id)]
    pure none

/-- The view for inspection. -/
def inspect (w : Worker handler) : String :=
  Text.inspectRecord "Worker"
    [("id", Text.inspect w.id), ("registry", w.registry.inspect)] true

end Worker

end JobQueue
