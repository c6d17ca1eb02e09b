import JobQueue.Document.Json

/-!
# The states of a job

A job waits as `queued`, is `processing` while a worker holds its lock, and ends as `succeeded` or
`failed`. The last two are terminal.
-/

namespace JobQueue

/-- The state of a job. -/
inductive Status where
  | queued
  | processing
  | succeeded
  | failed
  deriving DecidableEq

namespace Status

/-- All states, in the order in which a job passes them. -/
def all : List Status := [.queued, .processing, .succeeded, .failed]

/-- The name of a state, in storage and in logs. -/
def text : Status → String
  | .queued => "queued"
  | .processing => "processing"
  | .succeeded => "succeeded"
  | .failed => "failed"

/-- Whether a job in this state stays as it is. -/
def isTerminal : Status → Bool
  | .succeeded | .failed => true
  | .queued | .processing => false

/-- The state with this name. -/
def parse? (s : String) : Option Status := all.find? fun status => status.text = s

/-- What is said about a name that no state has. -/
def parseError (s : String) : String := "invalid job status: " ++ s

/-- A state in a document: its name, or an object with the name as its only member and null as the
value. -/
def ofJson? : Json → Option Status
  | .string s => parse? s
  | .object [(name, .null)] => parse? name
  | _ => none

/-- A state as its name. -/
def toJson (status : Status) : Json := .string status.text

theorem parse?_text (status : Status) : parse? status.text = some status := by
  cases status <;> decide

end Status

end JobQueue
