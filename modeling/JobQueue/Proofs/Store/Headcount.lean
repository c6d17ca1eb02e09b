import JobQueue.Store.Basic
import Mathlib.Data.List.Basic

/-!
# What a snapshot counts

A snapshot of a store gives, for every type, how many jobs there are of it, in each state and in
all. It counts in words of 64 bits, and a type that no job has is not in it.

* `Snapshot.countsOf`: the counts of a type, which are none when it is left out.
* `Store.of_snapshot` and `Store.total_snapshot`: they are the numbers of jobs.
-/

namespace JobQueue

/-- The count of a state. -/
def StatusCounts.of (c : StatusCounts) : Status → UInt64
  | .queued => c.queued
  | .processing => c.processing
  | .succeeded => c.succeeded
  | .failed => c.failed

theorem StatusCounts.of_add (c : StatusCounts) (status other : Status) (count : UInt64) :
    (c.add status count).of other = c.of other + if status = other then count else 0 := by
  cases status <;> cases other <;> simp [add, of]

theorem StatusCounts.total_add (c : StatusCounts) (status : Status) (count : UInt64) :
    (c.add status count).total = c.total + count := by
  cases status <;> rfl

namespace Snapshot

/-- The counts of a type; nothing is counted of a type that is left out. -/
def countsOf (s : Snapshot) (jobType : String) : StatusCounts := (s.entry? jobType).getD .zero

theorem countsOf_add (s : Snapshot) (jobType other : String) (status : Status) (count : UInt64) :
    (s.add jobType status count).countsOf other =
      if jobType = other then (s.countsOf other).add status count else s.countsOf other := by
  obtain ⟨sampledAt, entries, deadLetters⟩ := s
  simp only [countsOf, entry?, add]
  induction entries with
  | nil => by_cases h : jobType = other <;> simp [addEntry, h]
  | cons e rest ih =>
    obtain ⟨name, counts⟩ := e
    by_cases hn : name = jobType
    · by_cases h : jobType = other <;> simp [addEntry, hn, h]
    · by_cases h : name = other
      · have apart : ¬jobType = other := fun same => hn (h.trans same.symm)
        simp [addEntry, h, apart, Ne.symm apart]
      · simpa [addEntry, hn, h] using ih

end Snapshot

/-- A number that every job in certain states adds one to counts the jobs in these states. -/
theorem Snapshot.countsOf_foldl (number : StatusCounts → UInt64) (among : Status → Bool)
    (adds : ∀ c status, number (c.add status 1) = number c + if among status then 1 else 0)
    (jobs : List Job) (acc : Snapshot) (jobType : String) :
    number ((jobs.foldl (fun acc job => acc.add job.jobType job.status 1) acc).countsOf jobType) =
      number (acc.countsOf jobType) +
        UInt64.ofNat (jobs.countP fun job => job.jobType = jobType && among job.status) := by
  induction jobs generalizing acc with
  | nil => simp
  | cons job rest ih =>
    rw [List.foldl_cons, ih, countsOf_add, List.countP_cons, UInt64.ofNat_add]
    by_cases type : job.jobType = jobType
    · cases state : among job.status
      · simp [type, state, adds]
      · simp only [type, state, adds, ↓reduceIte, decide_true, Bool.and_self]
        ac_rfl
    · simp [type]

namespace Store

variable (s : Store) (now : Instant) (jobType : String)

/-- A snapshot counts the jobs of a type that are in a state. -/
theorem of_snapshot (status : Status) :
    ((s.snapshot now).countsOf jobType).of status =
      UInt64.ofNat (s.jobs.countP fun job => job.jobType = jobType && job.status = status) := by
  rw [snapshot, Snapshot.countsOf_foldl (fun c => c.of status) (fun other => other = status)
    fun c other => by simp [StatusCounts.of_add]]
  cases status <;> exact UInt64.zero_add _

/-- A snapshot counts the jobs of a type. -/
theorem total_snapshot :
    ((s.snapshot now).countsOf jobType).total =
      UInt64.ofNat (s.jobs.countP fun job => job.jobType = jobType) := by
  rw [snapshot, Snapshot.countsOf_foldl StatusCounts.total (fun _ => true)
    fun c status => c.total_add status 1]
  simp only [Bool.and_true]
  exact UInt64.zero_add _

end Store

end JobQueue
