import JobQueue.Proofs.Store.Documents

/-!
# What a call makes of a document

All that a call of the store can make of one document, with the condition under which it does. What
holds of every document along every run is shown by going through these cases once.

* `Change`: the cases, and `Store.change_perform`: there are no others.
* `Store.uniqueIds_perform`: every call keeps the identifiers apart.
* `Call.accepts`: whether a call that ends an attempt was accepted. It is exactly when its worker
  holds the lock (`accepts_iff`), and a refused one changes nothing (`perform_of_refused`).
* `Call.claimed?` and `Call.failed`: the job that a call hands out, and the jobs that it fails.
-/

namespace JobQueue

/-- What a call makes of the document under one identifier. -/
inductive Change : Call → Option Job → Option Job → Prop where
  | kept (c : Call) (old : Option Job) : Change c old old
  | inserted (job : Job) (old : Option Job) : Change (.insert job) old (some job)
  | claimed {job : Job} {now : Instant} (worker : String) (claimable : job.isClaimable now) :
      Change (.claimNext worker now) (some job) (some (Store.claimed job worker now))
  | renewed {job : Job} {worker : String} (now : Instant) (held : job.isLockedBy worker) :
      Change (.heartbeat job.id worker now) (some job) (some (Store.renewed job now))
  | succeeded {job : Job} {worker : String} (result : Json) (now : Instant)
      (held : job.isLockedBy worker) :
      Change (.markSucceeded job.id worker result now) (some job)
        (some (Store.succeeded job result now))
  | retried {job : Job} {worker : String} (error : Failure) (availableAt now : Instant)
      (held : job.isLockedBy worker) :
      Change (.markRetry job.id worker error availableAt now) (some job)
        (some (Store.retried job error availableAt now))
  | failed {job : Job} {worker : String} (error : Failure) (now : Instant)
      (held : job.isLockedBy worker) :
      Change (.markFailed job.id worker error now) (some job) (some (Store.failed job error now))
  | requeued {job : Job} {now : Instant} (expired : job.lockExpired now)
      (spared : job.hasAttemptsRemaining) :
      Change (.releaseStuck now) (some job) (some (Store.requeued job now))
  | exhausted {job : Job} {now : Instant} (expired : job.lockExpired now)
      (spent : job.hasAttemptsRemaining = false) :
      Change (.releaseStuck now) (some job) (some (Store.exhausted job now))

/-- A document that is found where none was has just been put in. -/
theorem Change.eq_insert {c : Call} {job : Job} (h : Change c none (some job)) :
    c = .insert job := by
  cases h
  rfl

/-! ## What a call answers -/

namespace Call

/-- The job and the worker of a call that ends an attempt. -/
def ends? : Call → Option (Uuid × String)
  | .markSucceeded id worker _ _ => some (id, worker)
  | .markRetry id worker _ _ _ => some (id, worker)
  | .markFailed id worker _ _ => some (id, worker)
  | _ => none

/-- Whether a call that ends an attempt was accepted. -/
def accepts : (c : Call) → Except QueueError c.Answer → Bool
  | .markSucceeded _ _ _ _, .ok accepted => accepted
  | .markRetry _ _ _ _ _, .ok accepted => accepted
  | .markFailed _ _ _ _, .ok job => job.isSome
  | _, _ => false

/-- The job that a claim hands out. -/
def claimed? : (c : Call) → Except QueueError c.Answer → Option Job
  | .claimNext _ _, .ok job => job
  | _, _ => none

/-- The jobs that a call failed for good, as they are stored then. -/
def failed : (c : Call) → Except QueueError c.Answer → List Job
  | .markFailed _ _ _ _, .ok job => job.toList
  | .releaseStuck _, .ok release => release.exhausted
  | _, _ => []

end Call

namespace Store

variable {s : Store} {id : Uuid} {worker : String} {now : Instant} {c : Call}

/-- What a call of the owner makes of a document, when the change keeps its identifier. -/
theorem change_updateLocked (change : Job → Job) (hid : ∀ job, (change job).id = job.id)
    {target : Uuid} (held : ∀ job, job.id = target → job.isLockedBy worker →
      Change c (some job) (some (change job))) (id : Uuid) :
    Change c (s.find? id) ((s.updateLocked target worker change).2.find? id) := by
  rcases s.updateLocked_at target worker hid id with ⟨job, rfl, hfind, hlock, -, hafter⟩ | ⟨-, hafter⟩
  · rw [hfind, hafter]
    exact held job (id_of_find? hfind) hlock
  · rw [hafter]
    exact .kept c _

/-- **What a call makes of a document** is one of the cases of `Change`. -/
theorem change_perform (unique : s.UniqueIds) (c : Call) (id : Uuid) :
    Change c (s.find? id) ((s.perform c).2.find? id) := by
  cases c with
  | insert job =>
    show Change _ _ ((s.insert job).2.find? id)
    have put (keys : List (String × Uuid)) : Change (.insert job) (s.find? id)
        (find? ⟨putJob job s.jobs, keys, s.deadLetters⟩ id) := by
      rw [find?_put]
      split
      · exact .inserted job _
      · exact .kept _ _
    unfold insert
    split
    · exact put _
    · split
      · exact .kept _ _
      · exact put _
  | claimNext worker now =>
    show Change _ _ ((s.claimNext worker now).2.find? id)
    rcases claimNext_at unique worker now id with ⟨job, hold, hclaim, -, hafter⟩ | ⟨-, hafter⟩
    · rw [hold, hafter]
      exact .claimed worker hclaim
    · rw [hafter]
      exact .kept _ _
  | heartbeat target worker now =>
    refine change_updateLocked (fun job => renewed job now) (fun _ => rfl) ?_ id
    rintro job rfl held
    exact .renewed now held
  | markSucceeded target worker result now =>
    refine change_updateLocked (fun job => succeeded job result now) (fun _ => rfl) ?_ id
    rintro job rfl held
    exact .succeeded result now held
  | markRetry target worker error availableAt now =>
    refine change_updateLocked (fun job => retried job error availableAt now) (fun _ => rfl) ?_ id
    rintro job rfl held
    exact .retried error availableAt now held
  | markFailed target worker error now =>
    show Change _ _ ((s.markFailed target worker error now).2.find? id)
    rcases s.markFailed_at target worker error now id with
      ⟨job, rfl, hfind, hlock, -, hafter⟩ | ⟨-, hafter⟩
    · rw [hfind, hafter, ← id_of_find? hfind]
      exact .failed error now hlock
    · rw [hafter]
      exact .kept _ _
  | releaseStuck now =>
    show Change _ _ ((s.releaseStuck now).2.find? id)
    rw [find?_releaseStuck]
    cases s.find? id with
    | none => exact .kept _ _
    | some job =>
      show Change _ _ (some (released job now))
      unfold released
      split
      next hexpired =>
        split
        next hspared => exact .requeued hexpired hspared
        next hspent => exact .exhausted hexpired (by simpa using hspent)
      next => exact .kept _ _
  | incrementRetryCount target now =>
    show Change _ _ ((s.incrementRetryCount target now).2.find? id)
    unfold incrementRetryCount
    split <;> exact .kept _ _
  | find | list | snapshot | insertDeadLetter | findDeadLetter | listDeadLetters
  | deleteDeadLetter | deleteDeadLettersBefore | countDeadLetters => exact .kept _ _

/-- Every call keeps the identifiers apart. -/
theorem uniqueIds_perform (unique : s.UniqueIds) (c : Call) : (s.perform c).2.UniqueIds := by
  have locked (target : Uuid) (worker : String) (change : Job → Job) :
      (s.updateLocked target worker change).2.UniqueIds := by
    rcases s.updateLocked_cases target worker change with h | ⟨job, -, -, h⟩
    · rwa [h]
    · rw [h]
      exact nodup_putJob unique
  cases c with
  | insert job =>
    show (s.insert job).2.UniqueIds
    unfold insert
    split
    · exact nodup_putJob unique
    · split
      · exact unique
      · exact nodup_putJob unique
  | claimNext worker now =>
    show (s.claimNext worker now).2.UniqueIds
    rcases s.claimNext_cases worker now with h | ⟨job, -, -, h⟩
    · rwa [h]
    · rw [h]
      exact nodup_putJob unique
  | heartbeat target worker now => exact locked target worker _
  | markSucceeded target worker result now => exact locked target worker _
  | markRetry target worker error availableAt now => exact locked target worker _
  | markFailed target worker error now =>
    show (s.markFailed target worker error now).2.UniqueIds
    rcases s.markFailed_cases target worker error now with h | ⟨job, -, -, h⟩
    · rwa [h]
    · rw [h]
      exact nodup_putJob unique
  | releaseStuck now =>
    show ((s.jobs.map fun job => released job now).map Job.id).Nodup
    have hids : (Job.id ∘ fun job => released job now) = Job.id := by
      funext job
      exact released_id job now
    rwa [List.map_map, hids]
  | incrementRetryCount target now =>
    show (s.incrementRetryCount target now).2.UniqueIds
    unfold incrementRetryCount
    split <;> exact unique
  | find | list | snapshot | insertDeadLetter | findDeadLetter | listDeadLetters
  | deleteDeadLetter | deleteDeadLettersBefore | countDeadLetters => exact unique

/-! ## What is put in and what stays -/

/-- A job that is in the store after a call was there before under its identifier, or was put in. -/
theorem id_mem_or_eq_insert (unique : s.UniqueIds) {job : Job} (h : job ∈ (s.perform c).2.jobs) :
    (∃ old ∈ s.jobs, old.id = job.id) ∨ c = .insert job := by
  have found := find?_of_mem (uniqueIds_perform unique c) h
  have change := change_perform unique c job.id
  rw [found] at change
  cases hold : s.find? job.id with
  | none =>
    rw [hold] at change
    exact .inr change.eq_insert
  | some old => exact .inl ⟨old, mem_of_find? hold, id_of_find? hold⟩

/-- Where no document was found, none is found after a call that does not put it in. -/
theorem find?_perform_none (unique : s.UniqueIds) (h : s.find? id = none)
    (other : ∀ job, c = .insert job → job.id ≠ id) : (s.perform c).2.find? id = none := by
  cases hafter : (s.perform c).2.find? id with
  | none => rfl
  | some job =>
    have change := change_perform unique c id
    rw [h, hafter] at change
    exact absurd (id_of_find? hafter) (other job change.eq_insert)

/-- A document stays under its identifier. -/
theorem find?_perform_some (unique : s.UniqueIds) {job : Job} (h : s.find? id = some job) :
    ∃ after, (s.perform c).2.find? id = some after := by
  have change := change_perform unique c id
  rw [h] at change
  generalize (s.perform c).2.find? id = after at change
  cases change <;> exact ⟨_, rfl⟩

/-! ## Ends of attempts -/

/-- The call that ends an attempt is accepted exactly when its worker holds the lock. -/
theorem accepts_iff (ends : c.ends? = some (id, worker)) :
    c.accepts (s.perform c).1 = true ↔ ∃ job, s.find? id = some job ∧ job.isLockedBy worker := by
  have locked (change : Job → Job) : (s.updateLocked id worker change).1 = true ↔
      ∃ job, s.find? id = some job ∧ job.isLockedBy worker := by
    simp only [updateLocked, ← lockedBy?_eq_some_iff]
    cases s.lockedBy? id worker <;> simp
  cases c <;> simp only [Call.ends?, Option.some.injEq, Prod.mk.injEq, reduceCtorEq] at ends
  case markSucceeded =>
    obtain ⟨rfl, rfl⟩ := ends
    exact locked _
  case markRetry =>
    obtain ⟨rfl, rfl⟩ := ends
    exact locked _
  case markFailed target owner error now =>
    obtain ⟨rfl, rfl⟩ := ends
    show (s.markFailed target owner error now).1.isSome = true ↔ _
    simp only [markFailed, ← lockedBy?_eq_some_iff]
    cases s.lockedBy? target owner <;> simp

/-- A refused call changes nothing: no document, no key and no record. -/
theorem perform_of_refused (ends : c.ends? = some (id, worker))
    (refused : c.accepts (s.perform c).1 = false) : (s.perform c).2 = s := by
  have locked (target : Uuid) (worker : String) (change : Job → Job)
      (h : (s.updateLocked target worker change).1 = false) :
      (s.updateLocked target worker change).2 = s := by
    rcases s.updateLocked_cases target worker change with h' | ⟨job, -, -, h'⟩
    · rw [h']
    · simp [h'] at h
  cases c <;> simp only [Call.ends?, reduceCtorEq] at ends
  case markSucceeded => exact locked _ _ _ refused
  case markRetry => exact locked _ _ _ refused
  case markFailed target owner error now =>
    show (s.markFailed target owner error now).2 = s
    have refused : (s.markFailed target owner error now).1.isSome = false := refused
    rcases s.markFailed_cases target owner error now with h | ⟨job, -, -, h⟩
    · rw [h]
    · simp [h] at refused

end Store

end JobQueue
