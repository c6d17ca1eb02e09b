import JobQueue.Binary64.Layout
import JobQueue.Metrics.Basic

/-!
# Metrics as text

Metrics are given out in families, in the order of their names. A family has a line that says what
it counts, a line with its kind, and a line for each sample, in the order of the label values. A
family by label that has no sample is left out.
-/

namespace JobQueue

namespace Metrics

/-- A character inside a label value. -/
def escapeLabel (c : Char) : List Char :=
  if c = '\\' then ['\\', '\\']
  else if c = '"' then ['\\', '"']
  else if c = '\n' then ['\\', 'n']
  else [c]

/-- A label with its value. -/
def labelText (name value : String) : String :=
  name ++ "=\"" ++ String.ofList (value.toList.flatMap escapeLabel) ++ "\""

/-- The line of a sample. -/
def sample (name : String) (labels : List (String × String)) (value : Binary64) : String :=
  let inner := String.intercalate "," (labels.map fun l => labelText l.1 l.2)
  let braced := if labels.isEmpty then "" else "\x7b" ++ inner ++ "\x7d"
  name ++ braced ++ " " ++ value.write .plain

/-- The line of a sample that is a count. -/
def countSample (name : String) (labels : List (String × String)) (count : Nat) : String :=
  sample name labels (Binary64.ofNat count)

/-- A family: its two lines in front of those of its samples, or nothing if it has none. -/
def family (name help kind : String) (samples : List String) : List String :=
  if samples.isEmpty then []
  else ("# HELP " ++ name ++ " " ++ help) :: ("# TYPE " ++ name ++ " " ++ kind) :: samples

/-- The labels of an outcome by type. -/
def outcomeLabels (l : String × String) : List (String × String) :=
  [("job_type", l.1), ("status", l.2)]

/-- Whether labels of an outcome come first: by type, then by outcome. -/
def outcomeBefore (a b : String × String) : Bool :=
  a.1 < b.1 || (a.1 = b.1 && decide (a.2 ≤ b.2))

/-- Running sums. -/
def cumulative : (sum : Nat) → List Nat → List Nat
  | _, [] => []
  | sum, n :: rest => (sum + n) :: cumulative (sum + n) rest

/-- The lines of a histogram: for each bound how many observations do not exceed it, then the sum
and the count. -/
def histogramLines (name : String) (labels : List (String × String)) (h : Histogram) :
    List String :=
  let bounds := Histogram.bounds.map (fun b => b.write .plain) ++ ["+Inf"]
  let buckets := (bounds.zip (cumulative 0 h.buckets)).map fun (bound, count) =>
    countSample (name ++ "_bucket") (labels ++ [("le", bound)]) count
  buckets ++ [sample (name ++ "_sum") labels h.sum, countSample (name ++ "_count") labels h.count]

/-- All families. -/
def lines (m : Metrics) : List String :=
  let enqueued := m.enqueued.mergeSort fun a b => decide (a.1 ≤ b.1)
  let finalized := m.finalized.mergeSort fun a b => outcomeBefore a.1 b.1
  let durations := m.durations.mergeSort fun a b => outcomeBefore a.1 b.1
  family "drover_dead_letters_pruned_total" "Total number of dead-letter records pruned" "counter"
      [countSample "drover_dead_letters_pruned_total" [] m.pruned.toNat]
    ++ family "drover_job_duration_seconds" "Job handler duration in seconds" "histogram"
      (durations.flatMap fun e =>
        histogramLines "drover_job_duration_seconds" (outcomeLabels e.1) e.2)
    ++ family "drover_jobs_enqueued_total" "Total number of jobs enqueued" "counter"
      (enqueued.map fun e => countSample "drover_jobs_enqueued_total" [("job_type", e.1)] e.2)
    ++ family "drover_jobs_finalized_total" "Total number of job attempts finalized" "counter"
      (finalized.map fun e =>
        countSample "drover_jobs_finalized_total" (outcomeLabels e.1) e.2)
    ++ family "drover_stuck_jobs_released_total"
      "Total number of jobs released after their visibility timeout" "counter"
      [countSample "drover_stuck_jobs_released_total" [] m.released.toNat]

end Metrics

end JobQueue
