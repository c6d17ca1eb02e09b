import JobQueue.DeadLetter.Record
import Mathlib.Data.List.Forall2

/-!
# Records and their jobs

A record is made of a job that failed for good, and tells of it what is needed to submit it again
and to see why it failed.

* `DeadLetter.Copies`: the record has the content of the job, by which it can be submitted again.
* `DeadLetter.IsOf`: the record is as it is made of the job, in every field that does not belong to
  the record alone. `DeadLetter.isOf_ofJob`: so it is made.
-/

namespace JobQueue.DeadLetter

variable {record : DeadLetter} {job : Job}

/-- A record with the content of a job. -/
structure Copies (record : DeadLetter) (job : Job) : Prop where
  jobId : record.jobId = job.id
  jobType : record.jobType = job.jobType
  payload : record.payload = job.payload
  priority : record.priority = job.priority
  maxAttempts : record.maxAttempts = job.maxAttempts

/-- A record as it is made of a job: it has the content of the job and tells of its end, and was
never submitted again. -/
structure IsOf (record : DeadLetter) (job : Job) : Prop extends record.Copies job where
  attempts : record.attempts = job.attempts
  error : record.error = job.error
  jobCreatedAt : record.jobCreatedAt = job.createdAt
  retryCount : record.retryCount = 0
  lastRetriedAt : record.lastRetriedAt = none

theorem isOf_ofJob (id : Uuid) (job : Job) (now : Instant) : (ofJob id job now).IsOf job where
  jobId := rfl
  jobType := rfl
  payload := rfl
  priority := rfl
  maxAttempts := rfl
  attempts := rfl
  error := rfl
  jobCreatedAt := rfl
  retryCount := rfl
  lastRetriedAt := rfl

/-- Nothing but the identifier and the time belongs to such a record alone. -/
theorem IsOf.eq_ofJob (h : record.IsOf job) : record = ofJob record.id job record.movedAt := by
  obtain ⟨⟨jobId, jobType, payload, priority, maxAttempts⟩, attempts, error, jobCreatedAt,
    retryCount, lastRetriedAt⟩ := h
  rw [ofJob, ← jobId, ← jobType, ← payload, ← priority, ← maxAttempts, ← attempts, ← error,
    ← jobCreatedAt, ← retryCount, ← lastRetriedAt]

/-- Of records that are made of some jobs, each is made of one of them. -/
theorem exists_of_isOf {records : List DeadLetter} {jobs : List Job}
    (h : List.Forall₂ IsOf records jobs) (mem : record ∈ records) :
    ∃ job ∈ jobs, record.IsOf job := by
  induction h with
  | nil => cases mem
  | @cons first job records jobs made _ ih =>
    rcases List.mem_cons.mp mem with rfl | mem
    · exact ⟨job, List.mem_cons_self, made⟩
    · obtain ⟨other, hother, made⟩ := ih mem
      exact ⟨other, List.mem_cons_of_mem _ hother, made⟩

theorem map_jobId {records : List DeadLetter} {jobs : List Job}
    (h : List.Forall₂ IsOf records jobs) : records.map jobId = jobs.map Job.id := by
  induction h with
  | nil => rfl
  | cons made _ ih => rw [List.map_cons, List.map_cons, made.jobId, ih]

end JobQueue.DeadLetter
