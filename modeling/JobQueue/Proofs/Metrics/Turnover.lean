import JobQueue.Proofs.Metrics.Counters
import JobQueue.Proofs.Program.Amid
import JobQueue.Proofs.Store.Change

/-!
# What calls leave to be counted

A call that changes the jobs in the store leaves it to its caller to count that. What is to be
counted can be told from the call and its answer, and it says how the jobs changed.

* `Deed.dues`: what a call leaves to be counted. `Deed.retries`, `Deed.isRefused` and
  `Deed.releases` are what some of the counters count.
* `Turnover`: all ways in which a call can turn the jobs over, and `Store.turnover_perform`: there
  are no others.
* `Turnover.countP_type` and `Turnover.countP_final`: the jobs of a type, and those of them that
  came to an end, are as many more as is to be counted of them.
* `Turnover.processing_le`, `Turnover.total_released` and `Turnover.total_le`: locks are taken only
  from jobs that were taken up, so that no counter grows faster than the calls.
-/

namespace JobQueue

/-! ## What calls leave to be counted -/

/-- The type of the job with an identifier. -/
def Store.typeOf (s : Store) (id : Uuid) : String := ((s.find? id).map Job.jobType).getD ""

/-- What is to be counted of a pass over expired locks. -/
def StuckRelease.dues (r : StuckRelease) : List Measurement :=
  if r.isEmpty then []
  else
    .released (r.requeued + UInt64.ofNat r.exhausted.length) ::
      r.exhausted.map fun job => .finalized job.jobType "failed"

namespace Deed

/-- What a call leaves to be counted. -/
def dues : Deed → List Measurement
  | ⟨.insert _, .ok job, _, _⟩ => [.enqueued job.jobType]
  | ⟨.markSucceeded id _ _ _, .ok accepted, before, _⟩ =>
    [.finalized (before.typeOf id) (if accepted then "succeeded" else "lock_lost")]
  | ⟨.markRetry id _ _ _ _, .ok accepted, before, _⟩ =>
    [.finalized (before.typeOf id) (if accepted then "retrying" else "lock_lost")]
  | ⟨.markFailed id _ _ _, .ok job, before, _⟩ =>
    [.finalized (before.typeOf id) (if job.isSome then "failed" else "lock_lost")]
  | ⟨.releaseStuck _, .ok release, _, _⟩ => release.dues
  | _ => []

/-- Whether a call scheduled a job of this type to be tried again. -/
def retries (jobType : String) : Deed → Bool
  | ⟨.markRetry id _ _ _ _, .ok true, before, _⟩ => before.typeOf id = jobType
  | _ => false

/-- Whether the end of an attempt at a job of this type was refused. -/
def isRefused (jobType : String) : Deed → Bool
  | ⟨.markSucceeded id _ _ _, .ok false, before, _⟩ => before.typeOf id = jobType
  | ⟨.markRetry id _ _ _ _, .ok false, before, _⟩ => before.typeOf id = jobType
  | ⟨.markFailed id _ _ _, .ok none, before, _⟩ => before.typeOf id = jobType
  | _ => false

/-- How many locks a call took from jobs that let them run out. -/
def releases : Deed → Nat
  | ⟨.releaseStuck now, .ok _, before, _⟩ => before.jobs.countP fun job => job.lockExpired now
  | _ => 0

theorem dues_failed (s : Store) (c : Call) (e : QueueError) : (failed s c e).dues = [] := by
  cases c <;> rfl

theorem releases_failed (s : Store) (c : Call) (e : QueueError) : (failed s c e).releases = 0 := by
  cases c <;> rfl

/-- Failures are counted one by one. -/
theorem total_failures (c : Counter) (jobs : List Job) :
    c.total (jobs.map fun job => .finalized job.jobType "failed") =
      jobs.countP fun job => c = .finalized job.jobType "failed" := by
  induction jobs with
  | nil => rfl
  | cons job rest ih =>
    rw [List.map_cons, Counter.total_cons, List.countP_cons, ih, Counter.gain_finalized]
    simp [Nat.add_comm]

/-- A pass over expired locks counts the jobs that failed in it. -/
theorem total_dues_pass (r : StuckRelease) (c : Counter) (other : c ≠ .released) :
    c.total r.dues = r.exhausted.countP fun job => c = .finalized job.jobType "failed" := by
  have nothing (count : UInt64) : c.gain (.released count) = 0 := by
    cases c with
    | released => exact absurd rfl other
    | enqueued | finalized => rfl
  unfold StuckRelease.dues
  split
  next empty =>
    simp only [StuckRelease.isEmpty, Bool.and_eq_true, List.isEmpty_iff] at empty
    rw [empty.2]
    rfl
  next => rw [Counter.total_cons, nothing, Nat.zero_add, total_failures]

theorem total_retrying (d : Deed) (jobType : String) :
    (Counter.finalized jobType "retrying").total d.dues = if d.retries jobType then 1 else 0 := by
  obtain ⟨c, answer, before, after⟩ := d
  rcases answer with e | answer
  · cases c <;> rfl
  · cases c
    case releaseStuck => exact (total_dues_pass answer _ (by simp)).trans (by simp [retries])
    case markSucceeded => cases answer <;> simp [dues, retries, Counter.gain]
    case markRetry => cases answer <;> simp [dues, retries, Counter.gain]
    case markFailed => cases answer <;> simp [dues, retries, Counter.gain]
    all_goals rfl

theorem total_lost (d : Deed) (jobType : String) :
    (Counter.finalized jobType "lock_lost").total d.dues =
      if d.isRefused jobType then 1 else 0 := by
  obtain ⟨c, answer, before, after⟩ := d
  rcases answer with e | answer
  · cases c <;> rfl
  · cases c
    case releaseStuck => exact (total_dues_pass answer _ (by simp)).trans (by simp [isRefused])
    case markSucceeded => cases answer <;> simp [dues, isRefused, Counter.gain]
    case markRetry => cases answer <;> simp [dues, isRefused, Counter.gain]
    case markFailed => cases answer <;> simp [dues, isRefused, Counter.gain]
    all_goals rfl

end Deed

/-! ## What calls do to the jobs -/

/-- What is to be counted when a job that was under way gets into its state. -/
def Job.dues (job : Job) : List Measurement :=
  match job.status with
  | .queued => [.finalized job.jobType "retrying"]
  | .processing => []
  | .succeeded => [.finalized job.jobType "succeeded"]
  | .failed => [.finalized job.jobType "failed"]

theorem Job.total_dues (job : Job) (jobType : String) {status : Status}
    (final : status.isTerminal = true) :
    (Counter.finalized jobType status.text).total job.dues =
      if job.jobType = jobType && job.status = status then 1 else 0 := by
  unfold Job.dues
  cases status <;> cases final <;> cases job.status <;> simp [Counter.gain, Status.text]

theorem Job.total_dues_eq_zero (job : Job) {c : Counter}
    (other : ∀ jobType outcome, c ≠ .finalized jobType outcome) : c.total job.dues = 0 := by
  unfold Job.dues
  cases c with
  | finalized jobType outcome => exact absurd rfl (other jobType outcome)
  | enqueued | released => split <;> rfl

/-- How a call turns over the jobs of a store, what it leaves to be counted, and how many locks it
takes. -/
inductive Turnover (s : Store) : List Job → List Measurement → Nat → Prop
  | kept : Turnover s s.jobs [] 0
  | refused (jobType : String) : Turnover s s.jobs [.finalized jobType "lock_lost"] 0
  | added (job : Job) (queued : job.status = .queued) :
      Turnover s (s.jobs ++ [job]) [.enqueued job.jobType] 0
  | claimed (old : Job) (worker : String) (now : Instant) (mem : old ∈ s.jobs)
      (queued : old.status = .queued) :
      Turnover s (Store.putJob (Store.claimed old worker now) s.jobs) [] 0
  | ended {old new : Job} (mem : old ∈ s.jobs) (same : new.id = old.id)
      (type : new.jobType = old.jobType) (processing : old.status = .processing) :
      Turnover s (Store.putJob new s.jobs) new.dues 0
  | released (now : Instant) :
      Turnover s (s.jobs.map fun job => Store.released job now) (s.releaseStuck now).1.dues
        (s.jobs.countP fun job => job.lockExpired now)

namespace Store

variable {s : Store} {id : Uuid} {worker : String}

theorem typeOf_of_find? {doc : Job} (found : s.find? id = some doc) :
    s.typeOf id = doc.jobType := by
  rw [typeOf, found]
  rfl

/-- The end of an attempt is refused, or moves the job that the worker holds. -/
theorem turnover_updateLocked (s : Store) (id : Uuid) (worker outcome : String) {change : Job → Job}
    (same : ∀ job, (change job).id = job.id)
    (counted : ∀ job, (change job).jobType = job.jobType ∧
      (change job).dues = [.finalized job.jobType outcome]) :
    Turnover s (s.updateLocked id worker change).2.jobs
      [.finalized (s.typeOf id)
        (if (s.updateLocked id worker change).1 then outcome else "lock_lost")] 0 := by
  rcases s.updateLocked_cases id worker change with h | ⟨job, found, held, h⟩
  · rw [h]
    exact .refused _
  · have ended : Turnover s (putJob (change job) s.jobs) (change job).dues 0 :=
      .ended (mem_of_find? found) (same job) (counted job).1 (Job.isLockedBy_iff.mp held).1
    rw [(counted job).2] at ended
    rw [h, typeOf_of_find? found]
    exact ended

/-- A call whose new job finds no other one in its place turns the jobs over in one of these ways.
-/
theorem turnover_perform (s : Store) (c : Call)
    (fresh : ∀ job, c = .insert job → s.find? job.id = none)
    (queued : ∀ job, c = .insert job → job.status = .queued) :
    Turnover s (s.perform c).2.jobs (Deed.made s c).dues (Deed.made s c).releases := by
  cases c with
  | insert job =>
    show Turnover s (s.insert job).2.jobs
      (Deed.dues ⟨.insert job, (s.insert job).1, s, (s.insert job).2⟩) 0
    rcases s.insert_cases job with ⟨e, h⟩ | ⟨keys, h⟩
    · rw [h]
      exact .kept
    · have added := Turnover.added (s := s) job (queued job rfl)
      rw [← putJob_of_absent (find?_eq_none_iff.mp (fresh job rfl))] at added
      rw [h]
      exact added
  | claimNext worker now =>
    rcases s.claimNext_cases worker now with h | ⟨old, mem, claimable, h⟩
    · show Turnover s (s.claimNext worker now).2.jobs [] 0
      rw [h]
      exact .kept
    · show Turnover s (s.claimNext worker now).2.jobs [] 0
      rw [h]
      exact .claimed old worker now mem (Job.status_of_isClaimable claimable)
  | heartbeat target worker now =>
    show Turnover s (s.updateLocked target worker fun job => renewed job now).2.jobs [] 0
    rcases s.updateLocked_cases target worker fun job => renewed job now with
      h | ⟨job, found, held, h⟩
    · rw [h]
      exact .kept
    · have processing := (Job.isLockedBy_iff.mp held).1
      have nothing : (renewed job now).dues = [] := by simp [Job.dues, renewed, processing]
      rw [h, ← nothing]
      exact .ended (mem_of_find? found) rfl rfl processing
  | markSucceeded target worker result now =>
    exact s.turnover_updateLocked target worker "succeeded" (fun _ => rfl) fun _ => ⟨rfl, rfl⟩
  | markRetry target worker error availableAt now =>
    exact s.turnover_updateLocked target worker "retrying" (fun _ => rfl) fun _ => ⟨rfl, rfl⟩
  | markFailed target worker error now =>
    show Turnover s (s.markFailed target worker error now).2.jobs [.finalized (s.typeOf target)
      (if (s.markFailed target worker error now).1.isSome then "failed" else "lock_lost")] 0
    rcases s.markFailed_cases target worker error now with h | ⟨job, found, held, h⟩
    · rw [h]
      exact .refused _
    · have ended : Turnover s (putJob (failed job error now) s.jobs)
          (failed job error now).dues 0 :=
        .ended (mem_of_find? found) rfl rfl (Job.isLockedBy_iff.mp held).1
      rw [h, typeOf_of_find? found]
      exact ended
  | releaseStuck now => exact .released now
  | incrementRetryCount target now =>
    show Turnover s (s.incrementRetryCount target now).2.jobs [] 0
    unfold incrementRetryCount
    split <;> exact .kept
  | find | list | snapshot | insertDeadLetter | findDeadLetter | listDeadLetters
  | deleteDeadLetter | deleteDeadLettersBefore | countDeadLetters => exact .kept

/-! ## Counting jobs -/

@[simp] theorem released_jobType (job : Job) (now : Instant) :
    (released job now).jobType = job.jobType := by
  unfold released
  split
  · split <;> rfl
  · rfl

/-- Putting a job in the place of another one counts the one for the other. -/
theorem countP_putJob (p : Job → Bool) {jobs : List Job} {old new : Job}
    (unique : (jobs.map Job.id).Nodup) (mem : old ∈ jobs) (same : new.id = old.id) :
    (putJob new jobs).countP p + (if p old then 1 else 0) =
      jobs.countP p + (if p new then 1 else 0) := by
  obtain ⟨rest, before, after⟩ := putBy_perm unique mem same
  rw [putJob, after.countP_eq, before.countP_eq, List.countP_cons, List.countP_cons]
  omega

/-- Jobs that are changed one by one count as before, and those more that a change makes count. -/
theorem countP_map (p q : Job → Bool) {change : Job → Job} {jobs : List Job}
    (each : ∀ job ∈ jobs, (if p (change job) then 1 else 0) =
      (if p job then 1 else 0) + if q job then 1 else 0) :
    (jobs.map change).countP p = jobs.countP p + jobs.countP q := by
  induction jobs with
  | nil => rfl
  | cons job rest ih =>
    rw [List.forall_mem_cons] at each
    rw [List.map_cons, List.countP_cons, List.countP_cons, List.countP_cons, ih each.2, each.1]
    omega

/-- The locks that a pass takes are those of jobs with attempts left and of jobs without. -/
theorem countP_lockExpired (s : Store) (now : Instant) :
    (s.jobs.countP fun job => job.lockExpired now) =
      (s.jobs.countP fun job => job.lockExpired now && job.hasAttemptsRemaining) +
        (s.releaseStuck now).1.exhausted.length := by
  rw [exhausted_releaseStuck, List.length_map, ← List.countP_eq_length_filter]
  induction s.jobs with
  | nil => rfl
  | cons job rest ih =>
    simp only [List.countP_cons, ih]
    cases job.lockExpired now <;> cases job.hasAttemptsRemaining <;> simp <;> omega

end Store

namespace Turnover

variable {s : Store} {jobs : List Job} {dues : List Measurement} {n : Nat}

theorem length_le (h : Turnover s jobs dues n) (unique : s.UniqueIds) :
    jobs.length ≤ s.jobs.length + 1 := by
  have put {old new : Job} (mem : old ∈ s.jobs) (same : new.id = old.id) :
      (Store.putJob new s.jobs).length ≤ s.jobs.length + 1 := by
    have counts := Store.countP_putJob (fun _ => true) unique mem same
    simp only [List.countP_true] at counts
    omega
  cases h with
  | kept | refused => exact Nat.le_succ _
  | added job => simp
  | claimed old worker now mem => exact put mem rfl
  | ended mem same => exact put mem same
  | released now => simp

/-- The jobs of a type are those that were counted as put in. -/
theorem countP_type (h : Turnover s jobs dues n) (unique : s.UniqueIds) (jobType : String) :
    (jobs.countP fun job => job.jobType = jobType) =
      (s.jobs.countP fun job => job.jobType = jobType) +
        (Counter.enqueued jobType).total dues := by
  cases h with
  | kept | refused => rfl
  | added job => simp [Counter.gain, List.countP_cons]
  | claimed old worker now mem =>
    have counts := Store.countP_putJob (fun job => job.jobType = jobType) unique mem
      (show (Store.claimed old worker now).id = old.id from rfl)
    exact Nat.add_right_cancel counts
  | @ended old new mem same type processing =>
    have counts := Store.countP_putJob (fun job => job.jobType = jobType) unique mem same
    rw [type] at counts
    rw [new.total_dues_eq_zero (c := .enqueued jobType) fun _ _ => by simp]
    exact Nat.add_right_cancel counts
  | released now =>
    rw [Deed.total_dues_pass _ _ (by simp)]
    refine (Store.countP_map _ (fun _ => false) fun job _ => ?_).trans (by simp)
    simp

/-- The jobs of a type that came to an end are those that were counted so. -/
theorem countP_final (h : Turnover s jobs dues n) (unique : s.UniqueIds) (jobType : String)
    {status : Status} (final : status.isTerminal = true) :
    (jobs.countP fun job => job.jobType = jobType && job.status = status) =
      (s.jobs.countP fun job => job.jobType = jobType && job.status = status) +
        (Counter.finalized jobType status.text).total dues := by
  cases h with
  | kept => rfl
  | refused => cases status <;> cases final <;> simp [Counter.gain, Status.text]
  | added job queued => cases status <;> cases final <;> simp [Counter.gain, queued]
  | claimed old worker now mem queued =>
    have counts := Store.countP_putJob (fun job => job.jobType = jobType && job.status = status)
      unique mem (show (Store.claimed old worker now).id = old.id from rfl)
    cases status <;> cases final <;> simpa [queued, Store.claimed] using counts
  | @ended old new mem same type processing =>
    have counts := Store.countP_putJob (fun job => job.jobType = jobType && job.status = status)
      unique mem same
    rw [new.total_dues jobType final]
    have going : old.status ≠ status := by
      rintro rfl
      rw [processing] at final
      cases final
    simpa [going] using counts
  | released now =>
    rw [Deed.total_dues_pass _ _ (by simp), Store.exhausted_releaseStuck]
    rw [List.countP_map (f := fun job => Store.exhausted job now), List.countP_filter]
    refine Store.countP_map _ _ fun job _ => ?_
    unfold Store.released
    split
    next expired =>
      have going := Job.status_of_lockExpired expired
      cases job.hasAttemptsRemaining <;> cases status <;> cases final <;>
        simp [expired, going, Status.text, Store.requeued, Store.exhausted, Store.failed,
          Job.clearLock, eq_comm]
    next lasting => simp [lasting]

/-- A pass takes locks only from jobs that are under way, and no other call takes more than one job
up. -/
theorem processing_le (h : Turnover s jobs dues n) (unique : s.UniqueIds) :
    (jobs.countP fun job => job.status = .processing) + n ≤
      (s.jobs.countP fun job => job.status = .processing) + 1 := by
  have put {old new : Job} (mem : old ∈ s.jobs) (same : new.id = old.id) :
      ((Store.putJob new s.jobs).countP fun job => job.status = .processing) ≤
        (s.jobs.countP fun job => job.status = .processing) + 1 := by
    have counts := Store.countP_putJob (fun job => job.status = .processing) unique mem same
    split at counts <;> split at counts <;> omega
  cases h with
  | kept | refused => exact Nat.le_succ _
  | added job queued => simp [queued]
  | claimed old worker now mem => exact put mem rfl
  | ended mem same => exact put mem same
  | released now =>
    refine Nat.le_succ_of_le (Nat.le_of_eq ?_)
    induction s.jobs with
    | nil => rfl
    | cons job rest ih =>
      simp only [List.map_cons, List.countP_cons, ← ih]
      unfold Store.released
      split
      next expired =>
        have going := Job.status_of_lockExpired expired
        cases job.hasAttemptsRemaining <;>
          simp [going, Store.requeued, Store.exhausted, Store.failed, Job.clearLock] <;>
          omega
      next => omega

/-- What is counted of the locks that were taken is right. -/
theorem total_released (h : Turnover s jobs dues n) (few : s.jobs.length < 2 ^ 64) :
    Counter.released.total dues = n := by
  cases h with
  | kept | refused | added | claimed => rfl
  | ended mem same type processing => exact Job.total_dues_eq_zero _ nofun
  | released now =>
    have parts := s.countP_lockExpired now
    have most := List.countP_le_length (p := fun job : Job => job.lockExpired now) (l := s.jobs)
    obtain ⟨spared, hspared⟩ : ∃ spared, spared =
      s.jobs.countP fun job => job.lockExpired now && job.hasAttemptsRemaining := ⟨_, rfl⟩
    rw [← hspared] at parts
    have requeued : (s.releaseStuck now).1.requeued.toNat = spared := by
      rw [s.requeued_releaseStuck now, ← hspared, UInt64.toNat_ofNat']
      exact Nat.mod_eq_of_lt (by omega)
    unfold StuckRelease.dues
    split
    next empty =>
      simp only [StuckRelease.isEmpty, Bool.and_eq_true, decide_eq_true_eq,
        List.isEmpty_iff] at empty
      rw [empty.1] at requeued
      rw [parts, empty.2, ← requeued]
      rfl
    next =>
      rw [Counter.total_cons, Deed.total_failures, parts, ← requeued]
      simp only [Counter.gain, UInt64.toNat_add, UInt64.toNat_ofNat', reduceCtorEq, decide_false,
        List.countP_false, Function.const_apply]
      omega

/-- A call leaves no more to be counted than itself and the locks that it took. -/
theorem total_le (h : Turnover s jobs dues n) (few : s.jobs.length < 2 ^ 64) (c : Counter) :
    c.total dues ≤ 1 + n := by
  have once (x : Measurement) (single : ∀ count, x ≠ .released count) : c.total [x] ≤ 1 :=
    c.gain_le_one single
  by_cases release : c = .released
  · rw [release, h.total_released few]
    exact Nat.le_add_left _ _
  cases h with
  | kept | claimed => exact Nat.zero_le _
  | refused => exact once _ nofun
  | added => exact once _ nofun
  | @ended old new =>
    unfold Job.dues
    split
    · exact once _ nofun
    · exact Nat.zero_le _
    · exact once _ nofun
    · exact once _ nofun
  | released now =>
    rw [Deed.total_dues_pass _ _ release, s.countP_lockExpired now]
    have most := List.countP_le_length (p := fun job : Job => c = .finalized job.jobType "failed")
      (l := (s.releaseStuck now).1.exhausted)
    omega

end Turnover

end JobQueue
