import JobQueue.Job.Basic

/-!
# Outcomes

What became of the job that a worker claimed.
-/

namespace JobQueue

/-- How the attempt of a worker at a job ended. -/
inductive Outcome where
  /-- The handler gave a value, and the job is `succeeded`. -/
  | succeeded (job : Uuid)
  /-- The handler failed, and the job waits to be claimed again. -/
  | retrying (job : Uuid) (attempts : UInt32) (delayMs : UInt64)
  /-- The job failed for good. There is no record if it could not be written. -/
  | failed (job : Uuid) (attempts : UInt32) (record : Option Uuid)
  /-- The lock was gone, and nothing was written. -/
  | lockLost (job : Uuid)
  deriving DecidableEq

namespace Outcome

/-- The job that was claimed. -/
def job : Outcome → Uuid
  | .succeeded job => job
  | .retrying job _ _ => job
  | .failed job _ _ => job
  | .lockLost job => job

/-- The word for an outcome in logs and metrics. -/
def label : Outcome → String
  | .succeeded _ => "succeeded"
  | .retrying _ _ _ => "retrying"
  | .failed _ _ _ => "failed"
  | .lockLost _ => "lock_lost"

end Outcome

end JobQueue
