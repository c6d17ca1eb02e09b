import JobQueue.Proofs.Store.Run
import Mathlib.Algebra.Group.Nat.Defs

/-!
# The shape of a document

The fields of a document are linked: a lock has an owner, a time and a last renewal; an end has a
time; a result or a failure is there according to how the job ended. Each writer of the store
restores all of these links, whoever calls it and whenever.

* `Job.Coherent`: the lock, the end, the result, the failure and the key agree with the state.
* `Change.coherent`: what a call makes of a coherent document is coherent.
* `Job.WellFormed`: and the job was started exactly when it was claimed. As attempts are counted in
  32 bits, this is so only while no job was claimed `2 ^ 32` times.
* `Store.wellFormed_after`: every document is well formed after every run.
-/

namespace JobQueue

/-! ## Fields that agree with the state -/

/-- A document whose fields agree with its state. -/
structure Job.Coherent (job : Job) : Prop where
  owner : job.lockOwner.isSome ↔ job.status = .processing
  locked : job.lockedAt.isSome ↔ job.status = .processing
  renewal : job.lastHeartbeatAt = job.lockedAt
  finished : job.finishedAt.isSome ↔ job.status.isTerminal
  result : job.result.isSome ↔ job.status = .succeeded
  succeeded : job.status = .succeeded → job.error = none
  failed : job.status = .failed → job.error.isSome ∧ job.idempotencyKey = none

namespace Job

variable {job : Job}

/-- A submission is coherent. -/
theorem IsSubmission.coherent (h : job.IsSubmission) : job.Coherent := by
  rw [h]
  refine ⟨?_, ?_, rfl, ?_, ?_, ?_, ?_⟩ <;> simp [queued, Status.isTerminal]

/-- A success gives the lock up, and leaves no failure. -/
theorem coherent_succeeded (job : Job) (result : Json) (now : Instant) :
    (Store.succeeded job result now).Coherent := by
  refine ⟨?_, ?_, rfl, ?_, ?_, ?_, ?_⟩ <;>
    simp [Store.succeeded, clearLock, Status.isTerminal]

namespace Coherent

variable (h : job.Coherent)

include h

/-- A document that is not at its end has no time of an end. -/
theorem finishedAt_eq_none (going : job.status.isTerminal = false) : job.finishedAt = none := by
  rw [← Option.not_isSome_iff_eq_none, h.finished, going]
  exact Bool.false_ne_true

/-- A document that has not succeeded has no result. -/
theorem result_eq_none (other : job.status ≠ .succeeded) : job.result = none := by
  rwa [← Option.not_isSome_iff_eq_none, h.result]

/-- A claim gives a queued document a lock. -/
theorem claimed (queued : job.status = .queued) (worker : String) (now : Instant) :
    (Store.claimed job worker now).Coherent where
  owner := by simp [Store.claimed]
  locked := by simp [Store.claimed]
  renewal := rfl
  finished := by
    have going : job.finishedAt = none := h.finishedAt_eq_none (by rw [queued]; rfl)
    simp [Store.claimed, Status.isTerminal, going]
  result := by
    have pending : job.result = none := h.result_eq_none (by simp [queued])
    simp [Store.claimed, pending]
  succeeded := by simp [Store.claimed]
  failed := by simp [Store.claimed]

/-- A renewal moves the lock of a document that has one. -/
theorem renewed (processing : job.status = .processing) (now : Instant) :
    (Store.renewed job now).Coherent where
  owner := h.owner
  locked := by simp [Store.renewed, processing]
  renewal := rfl
  finished := h.finished
  result := h.result
  succeeded := h.succeeded
  failed := h.failed

/-- A failure for good gives up the lock and the key. -/
theorem fail (processing : job.status = .processing) (error : Failure) (now : Instant) :
    (Store.failed job error now).Coherent := by
  have pending : job.result = none := h.result_eq_none (by simp [processing])
  refine ⟨?_, ?_, rfl, ?_, ?_, ?_, ?_⟩ <;>
    simp [Store.failed, clearLock, Status.isTerminal, pending]

/-- A document that is queued again has lost its lock and nothing else that its state asks for. -/
theorem requeue (processing : job.status = .processing) (error : Option Failure)
    (availableAt now : Instant) :
    (clearLock
      { job with
        status := .queued, error := error, availableAt := availableAt, updatedAt := now }).Coherent
    := by
  have pending : job.result = none := h.result_eq_none (by simp [processing])
  have going : job.finishedAt = none := h.finishedAt_eq_none (by rw [processing]; rfl)
  refine ⟨?_, ?_, rfl, ?_, ?_, ?_, ?_⟩ <;> simp [clearLock, Status.isTerminal, pending, going]

end Coherent

end Job

/-- What a call makes of a coherent document is coherent. -/
theorem Change.coherent {c : Call} {old : Option Job} {job : Job} (h : Change c old (some job))
    (coherent : ∀ doc, old = some doc → doc.Coherent)
    (asNew : ∀ job, c = .insert job → job.IsSubmission) : job.Coherent := by
  cases h with
  | kept => exact coherent job rfl
  | inserted => exact (asNew job rfl).coherent
  | @claimed doc now worker claimable =>
    exact (coherent doc rfl).claimed (Job.status_of_isClaimable claimable) worker now
  | @renewed doc worker now held =>
    exact (coherent doc rfl).renewed (Job.isLockedBy_iff.mp held).1 now
  | @succeeded doc worker result now => exact doc.coherent_succeeded result now
  | @retried doc worker error availableAt now held =>
    exact (coherent doc rfl).requeue (Job.isLockedBy_iff.mp held).1 (some error) availableAt now
  | @failed doc worker error now held =>
    exact (coherent doc rfl).fail (Job.isLockedBy_iff.mp held).1 error now
  | @requeued doc now expired =>
    exact (coherent doc rfl).requeue (Job.status_of_lockExpired expired) doc.error doc.availableAt
      now
  | @exhausted doc now expired =>
    exact (coherent doc rfl).fail (Job.status_of_lockExpired expired) _ now

/-- Every document of a run of submissions is coherent. -/
theorem Store.coherent_after {calls : List Call}
    (asNew : ∀ job, .insert job ∈ calls → job.IsSubmission) {id : Uuid} {job : Job}
    (found : (empty.after calls).find? id = some job) : job.Coherent := by
  induction calls using List.reverseRecOn generalizing job with
  | nil => cases found
  | append_singleton calls c ih =>
    have change := change_perform (uniqueIds_after uniqueIds_empty calls) c id
    rw [← after_concat, found] at change
    refine change.coherent (fun doc hdoc => ?_) fun other hother => ?_
    · exact ih (fun other h => asNew other (List.mem_append_left _ h)) hdoc
    · exact asNew other (List.mem_append_right _ (hother ▸ List.mem_singleton_self _))

/-! ## The count of attempts -/

/-- A document that is coherent, and was started exactly when it was claimed. -/
structure Job.WellFormed (job : Job) : Prop extends job.Coherent where
  started : job.startedAt.isSome ↔ 1 ≤ job.attempts

/-- The attempts of a document are at most so many, and it was started exactly when there are
any. -/
structure Job.Counted (job : Job) (claims : Nat) : Prop where
  within : job.attempts.toNat ≤ claims
  started : job.startedAt.isSome ↔ 1 ≤ job.attempts

namespace Job.Counted

variable {job : Job} {n : Nat}

theorem of_isSubmission (h : job.IsSubmission) (n : Nat) : job.Counted n := by
  rw [h]
  exact ⟨Nat.zero_le n, by simp [queued, UInt32.le_iff_toNat_le]⟩

theorem mono {m : Nat} (h : job.Counted n) (hle : n ≤ m) : job.Counted m :=
  ⟨Nat.le_trans h.within hle, h.started⟩

/-- A claim counts one attempt, which does not overflow. -/
theorem claimed (h : job.Counted n) (small : n + 1 < 2 ^ 32) (worker : String) (now : Instant) :
    (Store.claimed job worker now).Counted (n + 1) := by
  have hcount : (job.attempts + 1).toNat = job.attempts.toNat + 1 := by
    have hwithin := h.within
    rw [UInt32.toNat_add, UInt32.toNat_one]
    omega
  refine ⟨?_, ?_⟩
  · show (job.attempts + 1).toNat ≤ n + 1
    rw [hcount]
    exact Nat.succ_le_succ h.within
  · show (some (job.startedAt.getD now)).isSome ↔ 1 ≤ job.attempts + 1
    simp [UInt32.le_iff_toNat_le, hcount]

end Job.Counted

namespace Store

variable {calls : List Call} {id : Uuid} {job : Job}

/-- After a call a document is counted with the claim that the call was, if it handed the job
out. -/
theorem counted_perform {s : Store} {c : Call} {n : Nat} (unique : s.UniqueIds)
    (asNew : ∀ job, c = .insert job → job.IsSubmission)
    (counted : ∀ doc, s.find? id = some doc → doc.Counted n)
    (small : (n + if Entry.handsOut ⟨c, s⟩ id then 1 else 0) < 2 ^ 32)
    (found : (s.perform c).2.find? id = some job) :
    job.Counted (n + if Entry.handsOut ⟨c, s⟩ id then 1 else 0) := by
  by_cases hclaim : ∃ worker now, c = .claimNext worker now
  · obtain ⟨worker, now, rfl⟩ := hclaim
    have found : (s.claimNext worker now).2.find? id = some job := found
    rcases claimNext_at unique worker now id with ⟨old, hold, -, hanswer, hafter⟩ | ⟨-, hafter⟩
    · have handed := handsOut_of_claimNext hanswer
      rw [claimed_id, id_of_find? hold] at handed
      rw [hafter, Option.some.injEq] at found
      rw [if_pos handed] at small ⊢
      rw [← found]
      exact (counted old hold).claimed small worker now
    · rw [hafter] at found
      exact (counted job found).mono (Nat.le_add_right _ _)
  · have change := change_perform unique c id
    rw [found] at change
    generalize s.find? id = old at change counted
    refine Job.Counted.mono ?_ (Nat.le_add_right _ _)
    cases change with
    | kept => exact counted job rfl
    | inserted => exact .of_isSubmission (asNew job rfl) n
    | claimed worker => exact absurd ⟨worker, _, rfl⟩ hclaim
    | @renewed doc | @succeeded doc | @retried doc | @failed doc | @requeued doc
    | @exhausted doc => exact ⟨(counted doc rfl).within, (counted doc rfl).started⟩

/-- Every document of a run of submissions is counted with the claims that handed its job out. -/
theorem counted_after (asNew : ∀ job, .insert job ∈ calls → job.IsSubmission)
    (few : empty.claims calls id < 2 ^ 32) (found : (empty.after calls).find? id = some job) :
    job.Counted (empty.claims calls id) := by
  induction calls using List.reverseRecOn generalizing job with
  | nil => cases found
  | append_singleton calls c ih =>
    rw [claims_concat] at few ⊢
    rw [after_concat] at found
    refine counted_perform (uniqueIds_after uniqueIds_empty calls) (fun other hother => ?_)
      (fun doc hdoc => ?_) few found
    · exact asNew other (List.mem_append_right _ (hother ▸ List.mem_singleton_self _))
    · exact ih (fun other h => asNew other (List.mem_append_left _ h))
        (Nat.lt_of_le_of_lt (Nat.le_add_right _ _) few) hdoc

/-! ## Every run -/

/-- **Every document is well formed** after every run of calls that puts in submissions and hands no
job out `2 ^ 32` times: it is being processed exactly when its lock has an owner, a time and a last
renewal, which are then at one time; it has a time of its end exactly when its state is terminal,
and a result exactly when it succeeded; a success leaves no failure, and a failure for good leaves a
failure and no key; and it has a time of its start exactly when it has attempts. -/
theorem wellFormed_after (calls : List Call)
    (asNew : ∀ job, .insert job ∈ calls → job.IsSubmission)
    (few : ∀ id, empty.claims calls id < 2 ^ 32) :
    ∀ job ∈ (empty.after calls).jobs, job.WellFormed := by
  intro job hjob
  have found := find?_of_mem (uniqueIds_after uniqueIds_empty calls) hjob
  exact ⟨coherent_after asNew found, (counted_after asNew (few job.id) found).started⟩

/-- The job that failed on its last attempt is well formed. -/
theorem wellFormed_after_relay :
    ∃ job ∈ (empty.after Relay.calls).jobs, job.status = .failed ∧ job.WellFormed := by
  obtain ⟨job, hjob, hfailed⟩ : ∃ job ∈ (empty.after Relay.calls).jobs, job.status = .failed :=
    ⟨_, List.mem_cons_self, rfl⟩
  have few (id : Uuid) : empty.claims Relay.calls id < 2 ^ 32 :=
    Nat.lt_of_le_of_lt (claims_le_length _ _ id) (by decide)
  exact ⟨job, hjob, hfailed, wellFormed_after Relay.calls Relay.submitted.asNew few job hjob⟩

end Store

end JobQueue
