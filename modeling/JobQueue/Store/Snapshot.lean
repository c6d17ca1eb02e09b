import JobQueue.Job.Status

/-!
# Snapshots

A snapshot counts the jobs of each type by state, and the dead-letter records. Types that no job has
are left out.
-/

namespace JobQueue

open Document

/-- How many jobs are in each state, and how many there are. -/
structure StatusCounts where
  queued : UInt64
  processing : UInt64
  succeeded : UInt64
  failed : UInt64
  total : UInt64
  deriving DecidableEq

namespace StatusCounts

/-- No jobs. -/
def zero : StatusCounts := ⟨0, 0, 0, 0, 0⟩

/-- With `count` more jobs in a state. -/
def add (c : StatusCounts) (status : Status) (count : UInt64) : StatusCounts :=
  let c := { c with total := c.total + count }
  match status with
  | .queued => { c with queued := c.queued + count }
  | .processing => { c with processing := c.processing + count }
  | .succeeded => { c with succeeded := c.succeeded + count }
  | .failed => { c with failed := c.failed + count }

/-- The sum, state by state. -/
def plus (a b : StatusCounts) : StatusCounts :=
  ⟨a.queued + b.queued, a.processing + b.processing, a.succeeded + b.succeeded,
    a.failed + b.failed, a.total + b.total⟩

/-- Takes the fields of the counts. -/
def reader : RecordReader Json StatusCounts := do
  let queued ← field "queued" uint64?
  let processing ← field "processing" uint64?
  let succeeded ← field "succeeded" uint64?
  let failed ← field "failed" uint64?
  let total ← field "total" uint64?
  pure { queued, processing, succeeded, failed, total }

/-- The counts a document holds. -/
def ofJson? (j : Json) : Option StatusCounts := record? reader j

/-- The document of the counts. -/
def toJson (c : StatusCounts) : Json :=
  .object [
    ("queued", ofUInt64 c.queued),
    ("processing", ofUInt64 c.processing),
    ("succeeded", ofUInt64 c.succeeded),
    ("failed", ofUInt64 c.failed),
    ("total", ofUInt64 c.total)]

end StatusCounts

/-- The jobs of each type by state, and the dead-letter records, at one time. -/
structure Snapshot where
  sampledAt : Instant
  /-- One entry for each type, in the order in which the types were met. -/
  byType : List (String × StatusCounts)
  deadLetters : UInt64
  deriving DecidableEq

namespace Snapshot

/-- A snapshot that counts nothing yet. -/
def empty (now : Instant) : Snapshot := ⟨now, [], 0⟩

/-- The entries with `count` more jobs of a type in a state. -/
def addEntry (jobType : String) (status : Status) (count : UInt64) :
    List (String × StatusCounts) → List (String × StatusCounts)
  | [] => [(jobType, StatusCounts.zero.add status count)]
  | (name, counts) :: rest =>
    if name = jobType then (name, counts.add status count) :: rest
    else (name, counts) :: addEntry jobType status count rest

/-- The snapshot with `count` more jobs of a type in a state. -/
def add (s : Snapshot) (jobType : String) (status : Status) (count : UInt64) : Snapshot :=
  { s with byType := addEntry jobType status count s.byType }

/-- The counts of a type. -/
def entry? (s : Snapshot) (jobType : String) : Option StatusCounts :=
  (s.byType.find? fun e => e.1 = jobType).map (·.2)

/-- The sum over all types. -/
def totals (s : Snapshot) : StatusCounts :=
  s.byType.foldl (fun acc e => acc.plus e.2) StatusCounts.zero

/-- The entries of an object. -/
def entries? : Json → Option (List (String × StatusCounts))
  | .object members => members.mapM fun (name, j) => (StatusCounts.ofJson? j).map (name, ·)
  | _ => none

/-- Takes the fields of a snapshot. -/
def reader : RecordReader Json Snapshot := do
  let sampledAt ← field "sampled_at" instant?
  let byType ← field "by_type" entries?
  let deadLetters ← field "dead_letters" uint64?
  pure { sampledAt, byType, deadLetters }

/-- The snapshot a document holds. -/
def ofJson? (j : Json) : Option Snapshot := record? reader j

/-- The document of a snapshot. -/
def toJson (s : Snapshot) : Json :=
  .object [
    ("sampled_at", ofInstant s.sampledAt),
    ("by_type", .object (s.byType.map fun (name, c) => (name, c.toJson))),
    ("dead_letters", ofUInt64 s.deadLetters)]

end Snapshot

end JobQueue
