import JobQueue.Document.Json

/-!
# Failures recorded on a job

A failed attempt leaves a code for programs, a title for people and the details. A handler may
choose all three; what else goes wrong has codes of its own.
-/

namespace JobQueue

/-- What went wrong with the last attempt at a job. -/
structure Failure where
  code : String
  title : String
  detail : String
  deriving DecidableEq

namespace Failure

/-- The short form of a failure. -/
def display (f : Failure) : String := f.code ++ ": " ++ f.title

/-! ## The failures that are not the handler's choice -/

/-- The job is of a type that no handler is registered for. -/
def invalidJobType (jobType : String) : Failure :=
  ⟨"INVALID_JOB_TYPE", "Invalid job type",
    "no handler registered for job type '" ++ jobType ++ "'"⟩

/-- The handler failed without a failure of its own making. -/
def handlerError (detail : String) : Failure := ⟨"HANDLER_ERROR", "Job handler failed", detail⟩

/-- The handler panicked. -/
def handlerPanic (message : String) : Failure :=
  ⟨"HANDLER_PANIC", "Job handler panicked", message⟩

/-- The lock of the last attempt ran out. -/
def visibilityTimeout (owner : Option String) : Failure :=
  ⟨"VISIBILITY_TIMEOUT", "Visibility timeout expired",
    "lock held by " ++ owner.getD "unknown worker" ++ " expired on the final attempt"⟩

/-! ## Documents -/

/-- Takes the fields of a failure. -/
def reader : Document.RecordReader Json Failure := do
  let code ← Document.field "code" Document.string?
  let title ← Document.field "title" Document.string?
  let detail ← Document.field "detail" Document.string?
  pure { code, title, detail }

/-- The failure a document holds. -/
def ofJson? (j : Json) : Option Failure := Document.record? reader j

/-- The document of a failure. -/
def toJson (f : Failure) : Json :=
  .object [("code", .string f.code), ("title", .string f.title), ("detail", .string f.detail)]

end Failure

end JobQueue
