import JobQueue.Proofs.Store.Entries
import JobQueue.Store.Call

/-!
# The documents of a store

A store is looked at through `Store.find?`: which document stands under an identifier. For each
operation this module says when it changes the store at all, and which documents are found then.

* `Store.UniqueIds`: no two jobs have one identifier, so that the documents of the store are those
  that are found (`find?_of_mem`, `mem_of_find?`).
* `Store.find?_put`: putting a job in changes the document of its own identifier and no other.
* `Store.insert_cases`: a submission puts a job in, or changes nothing.
* `Store.claimNext_cases`: a claim takes one claimable document, or changes nothing; `claimNext_at`
  says so of the document under one identifier.
* `Store.updateLocked_cases`, `Store.markFailed_cases`: a call of the owner changes the document
  that the worker holds, or changes nothing; `updateLocked_at` and `markFailed_at` say so of the
  document under one identifier.
* `Store.find?_releaseStuck`, `Store.mem_exhausted_iff`: what a pass over expired locks does to each
  document, and which it reports.
-/

namespace JobQueue

/-! ## Questions about one document -/

theorem Job.isLockedBy_iff {job : Job} {worker : String} :
    job.isLockedBy worker ↔ job.status = .processing ∧ job.lockOwner = some worker := by
  simp [isLockedBy]

theorem Job.status_of_isClaimable {job : Job} {now : Instant} (h : job.isClaimable now) :
    job.status = .queued := by
  simp only [isClaimable, Bool.and_eq_true, decide_eq_true_eq] at h
  exact h.1

/-- A lock ran out when its end is past. -/
theorem Job.lockExpired_iff {job : Job} {now : Instant} :
    job.lockExpired now = true ↔ job.status = .processing ∧ ∃ time deadline,
      job.lockedAt = some time ∧ time.afterMs? job.visibilityTimeoutMs.toNat = some deadline ∧
        deadline < now := by
  -- a variable in the place of `afterMs?` keeps its constants from being computed with
  obtain ⟨after, same⟩ : ∃ after, after = Instant.afterMs? := ⟨_, rfl⟩
  unfold lockExpired
  rw [← same]
  cases hstatus : job.status with
  | queued | succeeded | failed => simp
  | processing =>
    cases hlocked : job.lockedAt with
    | none => simp
    | some time =>
      cases ends : after time job.visibilityTimeoutMs.toNat with
      | none => simp [ends]
      | some deadline => simp [ends]

theorem Job.status_of_lockExpired {job : Job} {now : Instant} (h : job.lockExpired now) :
    job.status = .processing := (lockExpired_iff.mp h).1

namespace Store

variable {s : Store} {job : Job} {id : Uuid} {worker : String} {now : Instant}

/-- No two jobs have the same identifier. -/
def UniqueIds (s : Store) : Prop := (s.jobs.map Job.id).Nodup

theorem uniqueIds_empty : empty.UniqueIds := List.nodup_nil

/-! ## Looking up -/

theorem id_of_find? (h : s.find? id = some job) : job.id = id := by
  simpa using List.find?_some h

theorem mem_of_find? (h : s.find? id = some job) : job ∈ s.jobs := List.mem_of_find?_eq_some h

theorem find?_eq_none_iff : s.find? id = none ↔ ∀ job ∈ s.jobs, job.id ≠ id := by
  simp [find?]

/-- A job of the store is the one that is found under its identifier. -/
theorem find?_of_mem (unique : s.UniqueIds) (h : job ∈ s.jobs) : s.find? job.id = some job := by
  have found : (s.find? job.id).isSome := by
    rw [Option.isSome_iff_ne_none]
    intro hnone
    exact find?_eq_none_iff.mp hnone job h rfl
  obtain ⟨other, hother⟩ := Option.isSome_iff_exists.mp found
  have heq := List.inj_on_of_nodup_map unique (mem_of_find? hother) h (id_of_find? hother)
  rw [hother, heq]

/-! ## Putting a job in -/

theorem putJob_cons (job other : Job) (jobs : List Job) : putJob job (other :: jobs) =
    if other.id = job.id then job :: jobs else other :: putJob job jobs := rfl

theorem find?_putJob (job : Job) (jobs : List Job) (id : Uuid) :
    (putJob job jobs).find? (fun other => other.id = id) =
      if job.id = id then some job else jobs.find? fun other => other.id = id :=
  find?_putBy Job.id job jobs id

theorem nodup_putJob {jobs : List Job} (h : (jobs.map Job.id).Nodup) :
    ((putJob job jobs).map Job.id).Nodup := nodup_putBy h

/-- A job with a new identifier is put behind the others. -/
theorem putJob_of_absent {jobs : List Job} (absent : ∀ other ∈ jobs, other.id ≠ job.id) :
    putJob job jobs = jobs ++ [job] := putBy_of_absent absent

/-- The documents of a store in which one was put. -/
theorem find?_put (s : Store) (job : Job) (keys : List (String × Uuid)) (records : List DeadLetter)
    (id : Uuid) :
    find? ⟨putJob job s.jobs, keys, records⟩ id = if job.id = id then some job else s.find? id :=
  find?_putJob job s.jobs id

/-- The documents when each of them was changed. -/
theorem find?_map (jobs : List Job) {change : Job → Job} (hid : ∀ job, (change job).id = job.id)
    (id : Uuid) :
    (jobs.map change).find? (fun other => other.id = id) =
      (jobs.find? fun other => other.id = id).map change := by
  rw [List.find?_map]
  congr 2
  funext job
  rw [Function.comp_apply, hid]

/-- A job is put in, or refused without effect. -/
theorem insert_cases (s : Store) (job : Job) :
    (∃ e, s.insert job = (.error e, s)) ∨
      ∃ keys, s.insert job = (.ok job, { s with jobs := putJob job s.jobs, keys := keys }) := by
  unfold insert
  split
  · exact .inr ⟨s.keys, rfl⟩
  · split
    · exact .inl ⟨_, rfl⟩
    · exact .inr ⟨_, rfl⟩

/-! ## Claims -/

theorem mem_of_firstOf {jobs : List Job} (h : firstOf jobs = some job) : job ∈ jobs := by
  cases jobs with
  | nil => simp [firstOf] at h
  | cons first rest =>
    simp only [firstOf, Option.some.injEq] at h
    rw [← h]
    clear h
    -- the best of those looked at so far is the first one or one of the others
    induction rest generalizing first with
    | nil => simp
    | cons other rest ih =>
      rw [List.foldl_cons]
      split
      · exact List.mem_cons_of_mem _ (ih other)
      · rcases List.mem_cons.mp (ih first) with h | h
        · rw [h]
          exact List.mem_cons_self
        · exact List.mem_cons_of_mem _ (List.mem_cons_of_mem _ h)

theorem nextClaimable?_eq_some (h : s.nextClaimable? now = some job) :
    job ∈ s.jobs ∧ job.isClaimable now := by
  simpa using mem_of_firstOf h

/-- A claim either finds nothing and changes nothing, or takes one claimable document. -/
theorem claimNext_cases (s : Store) (worker : String) (now : Instant) :
    s.claimNext worker now = (none, s) ∨
      ∃ job ∈ s.jobs, job.isClaimable now ∧
        s.claimNext worker now =
          (some (claimed job worker now), { s with jobs := putJob (claimed job worker now) s.jobs })
      := by
  unfold claimNext
  cases h : s.nextClaimable? now with
  | none => exact .inl rfl
  | some job =>
    obtain ⟨hmem, hclaim⟩ := nextClaimable?_eq_some h
    exact .inr ⟨job, hmem, hclaim, rfl⟩

@[simp] theorem claimed_id (job : Job) (worker : String) (now : Instant) :
    (claimed job worker now).id = job.id := rfl

/-- The job that a claim hands out is the document of a claimable one as it is then, and the worker
holds its lock. -/
theorem claimNext_eq_some (h : (s.claimNext worker now).1 = some job) :
    (s.claimNext worker now).2.find? job.id = some job ∧ job.isLockedBy worker ∧
      ∃ old ∈ s.jobs, old.isClaimable now ∧ job = claimed old worker now := by
  rcases s.claimNext_cases worker now with hnone | ⟨old, hmem, hclaim, hsome⟩
  · rw [hnone] at h
    cases h
  · rw [hsome] at h ⊢
    cases h
    refine ⟨?_, ?_, old, hmem, hclaim, rfl⟩
    · rw [find?_put, if_pos rfl]
    · simp [claimed, Job.isLockedBy]

/-- What a claim does to the job under one identifier: it hands out this job, which was claimable, or
it hands out no job of this identifier and leaves its document alone. -/
theorem claimNext_at (unique : s.UniqueIds) (worker : String) (now : Instant) (id : Uuid) :
    (∃ job, s.find? id = some job ∧ job.isClaimable now ∧
        (s.claimNext worker now).1 = some (claimed job worker now) ∧
        (s.claimNext worker now).2.find? id = some (claimed job worker now)) ∨
      (∀ job, (s.claimNext worker now).1 = some job → job.id ≠ id) ∧
        (s.claimNext worker now).2.find? id = s.find? id := by
  rcases s.claimNext_cases worker now with hnone | ⟨job, hmem, hclaim, hsome⟩
  · rw [hnone]
    exact .inr ⟨fun job h => (by cases h), rfl⟩
  · rw [hsome]
    by_cases heq : job.id = id
    · subst heq
      refine .inl ⟨job, find?_of_mem unique hmem, hclaim, rfl, ?_⟩
      rw [find?_put, claimed_id, if_pos rfl]
    · refine .inr ⟨?_, ?_⟩
      · rintro other hother
        cases hother
        exact heq
      · rw [find?_put, claimed_id, if_neg heq]

/-! ## The calls of the owner -/

theorem lockedBy?_eq_some_iff :
    s.lockedBy? id worker = some job ↔ s.find? id = some job ∧ job.isLockedBy worker := by
  simp [lockedBy?, Option.filter_eq_some_iff]

/-- A call of the owner is refused and changes nothing, or changes the one document that the worker
holds. -/
theorem updateLocked_cases (s : Store) (id : Uuid) (worker : String) (change : Job → Job) :
    s.updateLocked id worker change = (false, s) ∨
      ∃ job, s.find? id = some job ∧ job.isLockedBy worker ∧
        s.updateLocked id worker change =
          (true, { s with jobs := putJob (change job) s.jobs }) := by
  unfold updateLocked
  cases h : s.lockedBy? id worker with
  | none => exact .inl rfl
  | some job =>
    obtain ⟨hfind, hlock⟩ := lockedBy?_eq_some_iff.mp h
    exact .inr ⟨job, hfind, hlock, rfl⟩

/-- What a call of the owner does to the job under one identifier, when the change keeps the
identifier: it is accepted for this job and changes its document, or it is not accepted for this job
and leaves its document alone. -/
theorem updateLocked_at (s : Store) (target : Uuid) (worker : String) {change : Job → Job}
    (hid : ∀ job, (change job).id = job.id) (id : Uuid) :
    (∃ job, target = id ∧ s.find? id = some job ∧ job.isLockedBy worker ∧
        (s.updateLocked target worker change).1 = true ∧
        (s.updateLocked target worker change).2.find? id = some (change job)) ∨
      ((s.updateLocked target worker change).1 = true → target ≠ id) ∧
        (s.updateLocked target worker change).2.find? id = s.find? id := by
  rcases s.updateLocked_cases target worker change with h | ⟨job, hfind, hlock, h⟩
  · rw [h]
    exact .inr ⟨by simp, rfl⟩
  · rw [h, find?_put, hid, id_of_find? hfind]
    by_cases heq : target = id
    · subst heq
      exact .inl ⟨job, rfl, hfind, hlock, rfl, if_pos rfl⟩
    · exact .inr ⟨fun _ => heq, if_neg heq⟩

/-- A failure is refused and changes nothing, or fails the one document that the worker holds. -/
theorem markFailed_cases (s : Store) (id : Uuid) (worker : String) (error : Failure)
    (now : Instant) :
    s.markFailed id worker error now = (none, s) ∨
      ∃ job, s.find? id = some job ∧ job.isLockedBy worker ∧
        s.markFailed id worker error now =
          (some (failed job error now),
            { s with
              jobs := putJob (failed job error now) s.jobs
              keys := releaseKey s.keys job }) := by
  unfold markFailed
  cases h : s.lockedBy? id worker with
  | none => exact .inl rfl
  | some job =>
    obtain ⟨hfind, hlock⟩ := lockedBy?_eq_some_iff.mp h
    exact .inr ⟨job, hfind, hlock, rfl⟩

/-- What a failure does to the job under one identifier: it is accepted for this job and fails it, or
it is not accepted for this job and leaves its document alone. -/
theorem markFailed_at (s : Store) (target : Uuid) (worker : String) (error : Failure)
    (now : Instant) (id : Uuid) :
    (∃ job, target = id ∧ s.find? id = some job ∧ job.isLockedBy worker ∧
        (s.markFailed target worker error now).1 = some (failed job error now) ∧
        (s.markFailed target worker error now).2.find? id = some (failed job error now)) ∨
      ((s.markFailed target worker error now).1.isSome → target ≠ id) ∧
        (s.markFailed target worker error now).2.find? id = s.find? id := by
  rcases s.markFailed_cases target worker error now with h | ⟨job, hfind, hlock, h⟩
  · rw [h]
    exact .inr ⟨by simp, rfl⟩
  · have hid : job.id = target := id_of_find? hfind
    rw [h, find?_put, show (failed job error now).id = target from hid]
    by_cases heq : target = id
    · subst heq
      exact .inl ⟨job, rfl, hfind, hlock, rfl, if_pos rfl⟩
    · exact .inr ⟨fun _ => heq, if_neg heq⟩

/-- The job that a call failed is the document that its worker held, as it is stored then. -/
theorem markFailed_eq_some {error : Failure} {after : Job}
    (h : (s.markFailed id worker error now).1 = some after) :
    ∃ job, s.find? id = some job ∧ job.isLockedBy worker ∧ after = failed job error now ∧
      (s.markFailed id worker error now).2.find? id = some after := by
  rcases s.markFailed_cases id worker error now with hnone | ⟨job, hfind, hlock, hsome⟩
  · rw [hnone] at h
    cases h
  · rw [hsome] at h ⊢
    cases h
    refine ⟨job, hfind, hlock, rfl, ?_⟩
    rw [find?_put]
    exact if_pos (id_of_find? hfind)

/-! ## Expired locks -/

@[simp] theorem released_id (job : Job) (now : Instant) : (released job now).id = job.id := by
  unfold released
  split
  · split <;> rfl
  · rfl

/-- The documents after a pass over expired locks. -/
theorem find?_releaseStuck (s : Store) (now : Instant) (id : Uuid) :
    (s.releaseStuck now).2.find? id = (s.find? id).map fun job => released job now :=
  find?_map s.jobs (fun job => released_id job now) id

/-- Nobody holds a lock that ran out any more after the pass. -/
theorem released_not_locked (expired : job.lockExpired now) (worker : String) :
    (released job now).isLockedBy worker = false := by
  simp only [released, expired, ↓reduceIte]
  split <;> rfl

/-- The jobs that a pass counts are those that it found with attempts left. -/
theorem requeued_releaseStuck (s : Store) (now : Instant) :
    (s.releaseStuck now).1.requeued = UInt64.ofNat
      (s.jobs.countP fun job => job.lockExpired now && job.hasAttemptsRemaining) := by
  simp only [releaseStuck, List.partition_eq_filter_filter, List.filter_filter,
    List.countP_eq_length_filter]
  congr 3
  funext job
  exact Bool.and_comm _ _

/-- The jobs that a pass reports as failed are those that it found on their last attempt, as it left
them. -/
theorem exhausted_releaseStuck (s : Store) (now : Instant) :
    (s.releaseStuck now).1.exhausted =
      (s.jobs.filter fun job => job.lockExpired now && !job.hasAttemptsRemaining).map
        fun job => exhausted job now := by
  simp only [releaseStuck, List.partition_eq_filter_filter, List.filter_filter]
  congr 2
  funext job
  exact Bool.and_comm _ _

theorem mem_exhausted_iff {after : Job} :
    after ∈ (s.releaseStuck now).1.exhausted ↔
      ∃ job ∈ s.jobs, job.lockExpired now ∧ job.hasAttemptsRemaining = false ∧
        after = exhausted job now := by
  simp only [exhausted_releaseStuck, List.mem_map, List.mem_filter, Bool.and_eq_true,
    Bool.not_eq_true']
  constructor
  · rintro ⟨job, ⟨hmem, hexpired, hspent⟩, rfl⟩
    exact ⟨job, hmem, hexpired, hspent, rfl⟩
  · rintro ⟨job, hmem, hexpired, hspent, rfl⟩
    exact ⟨job, ⟨hmem, hexpired, hspent⟩, rfl⟩

end Store

end JobQueue
