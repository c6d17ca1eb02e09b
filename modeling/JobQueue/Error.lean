import JobQueue.Uuid

/-!
# Errors of the queue

What the operations of the queue answer instead of a result, by cause. `QueueError.message` is the
wording of each cause, and `QueueError.isInfrastructure` tells the failures of a store from the
mistakes of a caller.
-/

namespace JobQueue

/-- Why an operation of the queue failed. -/
inductive QueueError where
  /-- A job that has not failed holds this idempotency key. -/
  | conflict (jobType key : String)
  | jobNotFound (id : Uuid)
  | deadLetterNotFound (id : Uuid)
  | invalidJobType (why : String)
  | invalidPayload (why : String)
  /-- The configuration cannot be read, or not be worked with. -/
  | config (why : String)
  /-- A document cannot be read or written. -/
  | serialization (why : String)
  /-- A store failed. -/
  | store (why : String)
  /-- The database behind a store failed. -/
  | database (why : String)
  deriving DecidableEq

namespace QueueError

/-- The wording of an error. -/
def message : QueueError → String
  | .conflict jobType key =>
    "duplicate job of type '" ++ jobType ++ "' (idempotency key " ++ key ++ ")"
  | .jobNotFound id => "job " ++ id.text ++ " not found"
  | .deadLetterNotFound id => "dead-letter record " ++ id.text ++ " not found"
  | .invalidJobType why => "invalid job type: " ++ why
  | .invalidPayload why => "invalid payload: " ++ why
  | .config why => "invalid configuration: " ++ why
  | .serialization why => "serialization error: " ++ why
  | .store why => "store error: " ++ why
  | .database why => "database error: " ++ why

/-- Whether a job was refused as the duplicate of another one. -/
def isConflict : QueueError → Bool
  | .conflict _ _ => true
  | _ => false

/-- Whether the storage failed, rather than the caller. -/
def isInfrastructure : QueueError → Bool
  | .store _ | .database _ => true
  | _ => false

end QueueError

end JobQueue
