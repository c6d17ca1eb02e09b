import JobQueue.Binary64.Basic

/-!
# Metrics

The queue counts what it does: jobs accepted, attempts ended, locks taken back and records pruned.
It also measures how long handlers run. A `Measurement` is one such fact, and `Metrics` is what a
sequence of them adds up to.

* `Metrics.record` takes a measurement in.
* `Metrics.enqueuedOf` and `Metrics.finalizedOf` look the counts up.
-/

namespace JobQueue

/-- A fact that is counted. -/
inductive Measurement where
  /-- A job of this type was accepted. -/
  | enqueued (jobType : String)
  /-- An attempt at a job of this type ended this way. -/
  | finalized (jobType outcome : String)
  /-- So many jobs lost their expired locks. -/
  | released (count : UInt64)
  /-- So many dead-letter records were pruned. -/
  | pruned (count : UInt64)
  /-- A handler ran so many nanoseconds for a job of this type, and the attempt ended this way. -/
  | duration (jobType outcome : String) (nanoseconds : Nat)
  deriving DecidableEq

/-- Counts by label. -/
abbrev Tally (label : Type) := List (label × Nat)

namespace Tally

variable {label : Type} [DecidableEq label]

/-- Adds one under a label. -/
def increment (l : label) : Tally label → Tally label
  | [] => [(l, 1)]
  | (m, n) :: rest => if m = l then (m, n + 1) :: rest else (m, n) :: increment l rest

/-- The count under a label. -/
def count (l : label) (t : Tally label) : Nat :=
  ((t.find? fun e => e.1 = l).map (·.2)).getD 0

end Tally

/-- How often durations fell into each bucket, and their sum in seconds. -/
structure Histogram where
  /-- The observations in each bucket, the smallest bucket first; the last takes what exceeds all
  bounds. -/
  buckets : List Nat
  sum : Binary64
  deriving DecidableEq

namespace Histogram

/-- The upper bounds of the buckets, in milliseconds: one, and twice the bound before, fifteen in
all. -/
def boundsMs : List Nat := (List.range 15).map fun k => Nat.pow 2 k

/-- A number of milliseconds in seconds. The bounds are doublings of the first one, which is exact
in doubles. -/
def bounds : List Binary64 :=
  boundsMs.map fun ms => (Binary64.ofQuotient 1 1000).mul (Binary64.ofNat ms)

/-- No observations. -/
def empty : Histogram := ⟨List.replicate 16 0, Binary64.zero⟩

/-- The bucket of a duration: the first whose bound is not exceeded. -/
def bucketOf (seconds : Binary64) : Nat := bounds.findIdx fun bound => seconds.le bound

/-- Takes a duration in seconds in. -/
def observe (h : Histogram) (seconds : Binary64) : Histogram :=
  ⟨h.buckets.modify (bucketOf seconds) (· + 1), h.sum.add seconds⟩

/-- The number of observations. -/
def count (h : Histogram) : Nat := h.buckets.foldr (· + ·) 0

end Histogram

/-- A duration in seconds: whole seconds and the fraction, each in doubles, added. -/
def secondsOf (nanoseconds : Nat) : Binary64 :=
  (Binary64.ofNat (nanoseconds / 1000000000)).add
    (Binary64.ofQuotient (nanoseconds % 1000000000) 1000000000)

/-- What the measurements so far add up to. -/
structure Metrics where
  enqueued : Tally String
  finalized : Tally (String × String)
  released : UInt64
  pruned : UInt64
  durations : List ((String × String) × Histogram)
  deriving DecidableEq

namespace Metrics

/-- Nothing measured yet. -/
def empty : Metrics := ⟨[], [], 0, 0, []⟩

/-- The durations with one more under a label. -/
def observeIn (label : String × String) (seconds : Binary64) :
    List ((String × String) × Histogram) → List ((String × String) × Histogram)
  | [] => [(label, Histogram.empty.observe seconds)]
  | (l, h) :: rest =>
    if l = label then (l, h.observe seconds) :: rest else (l, h) :: observeIn label seconds rest

/-- Takes a measurement in. -/
def record (m : Metrics) : Measurement → Metrics
  | .enqueued jobType => { m with enqueued := Tally.increment jobType m.enqueued }
  | .finalized jobType outcome =>
    { m with finalized := Tally.increment (jobType, outcome) m.finalized }
  | .released count => { m with released := m.released + count }
  | .pruned count => { m with pruned := m.pruned + count }
  | .duration jobType outcome nanoseconds =>
    { m with durations := observeIn (jobType, outcome) (secondsOf nanoseconds) m.durations }

/-- How many jobs of a type were accepted. -/
def enqueuedOf (m : Metrics) (jobType : String) : Nat := Tally.count jobType m.enqueued

/-- How many attempts at jobs of a type ended some way. -/
def finalizedOf (m : Metrics) (jobType outcome : String) : Nat :=
  Tally.count (jobType, outcome) m.finalized

end Metrics

end JobQueue
