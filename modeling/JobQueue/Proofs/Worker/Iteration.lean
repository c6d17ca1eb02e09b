import JobQueue.Proofs.Worker.Parts

/-!
# An iteration on a store with one job

What a worker that works alone makes of the one job there is: it claims the job, hands it to its
handler, and ends the attempt as the handler ended.

* `Worker.succeed_atBench`, `Worker.handleFailure_atBench_retry` and
  `Worker.handleFailure_atBench_fail`: the three ends of an attempt.
* `Worker.runOnce_atBench_claimed` and `Worker.runOnce_atBench_none`: an iteration that can claim
  the job, and one that cannot.
-/

namespace JobQueue

variable {handler : Type}

theorem Job.lockExpired_of_queued {doc : Job} (queued : doc.status = .queued) (now : Instant) :
    doc.lockExpired now = false := by
  simp [lockExpired, queued]

/-! ## A store with one job -/

namespace Store

variable {doc job : Job} {worker : String} {now : Instant} (keys : List (String × Uuid))
  (records : List DeadLetter)

theorem claimNext_single (worker : String) (claimable : doc.isClaimable now) :
    claimNext ⟨[doc], keys, records⟩ worker now =
      (some (claimed doc worker now), ⟨[claimed doc worker now], keys, records⟩) := by
  simp [claimNext, nextClaimable?, firstOf, claimable, putJob, putBy]

theorem claimNext_single_none (worker : String) (unclaimable : doc.isClaimable now = false) :
    claimNext ⟨[doc], keys, records⟩ worker now = (none, ⟨[doc], keys, records⟩) := by
  simp [claimNext, nextClaimable?, firstOf, unclaimable]

theorem put_single (same : job.id = doc.id) :
    put ⟨[doc], keys, records⟩ job = ⟨[job], keys, records⟩ := by
  simp [put, putJob, putBy, same]

theorem find?_single : find? ⟨[doc], keys, records⟩ doc.id = some doc := by
  simp [find?]

theorem releaseStuck_single (unexpired : doc.lockExpired now = false) :
    releaseStuck ⟨[doc], keys, records⟩ now = (⟨0, []⟩, ⟨[doc], keys, records⟩) := by
  simp [releaseStuck, released, unexpired]

end Store

/-! ## The parts of an iteration -/

namespace Worker

variable (w : Worker handler) (v : Scenery) {doc job : Job} {jobs : List Job} {n : Nat}
  {keys : List (String × Uuid)} {records : List DeadLetter}

/-- The pass over expired locks finds nothing. -/
theorem releaseStuck_atBench (unexpired : doc.lockExpired (v.around n).time = false) :
    w.releaseStuck.atBench v ⟨⟨[doc], keys, records⟩, none, jobs, n⟩ =
      ((), ⟨⟨[doc], keys, records⟩, none, jobs, n + 2⟩) := by
  have nothing : Store.perform ⟨[doc], keys, records⟩ (.releaseStuck (v.around n).time) =
      (.ok ⟨0, []⟩, ⟨[doc], keys, records⟩) := by
    rw [Store.perform, Store.releaseStuck_single keys records unexpired]
  rw [releaseStuck, Program.atBench_bind_of v (Program.atBench_now v _ _ _),
    Program.atBench_bind_of v (Program.atBench_requestCall v _ _ _ nothing)]
  rfl

/-- A claim, after a pass that found nothing. -/
theorem claim_atBench (unexpired : ∀ now, doc.lockExpired now = false) :
    w.claim.run.atBench v ⟨⟨[doc], keys, records⟩, none, jobs, n⟩ =
      (.ok (Store.claimNext ⟨[doc], keys, records⟩ w.id (v.around (n + 3)).time).1,
        ⟨(Store.claimNext ⟨[doc], keys, records⟩ w.id (v.around (n + 3)).time).2, none, jobs,
          n + 6⟩) := by
  refine QueueProgram.atBench_within v _ _ _ ?_
  rw [QueueProgram.atBench_bind_ok v (QueueProgram.atBench_lift v
      (releaseStuck_atBench w v (unexpired _))),
    QueueProgram.atBench_bind_ok v (QueueProgram.atBench_now v _ _ _)]
  rfl

/-- A value: the job succeeds. -/
theorem succeed_atBench (value : Json) (held : doc.isLockedBy w.id) (same : doc.id = job.id) :
    (w.succeed job value).run.atBench v ⟨⟨[doc], keys, records⟩, none, jobs, n⟩ =
      (.ok (.succeeded job.id),
        ⟨⟨[Store.succeeded doc value (v.around n).time], keys, records⟩, none, jobs, n + 2⟩) := by
  have found := same ▸ @Store.find?_single doc keys records
  rw [succeed_ends w v _ _ value found held, Store.put_single keys records (Store.succeeded_id ..)]

/-- A failure with claims left: the job is queued again. -/
theorem handleFailure_atBench_retry (error : Failure) (held : doc.isLockedBy w.id)
    (same : doc.id = job.id) (left : job.attempts < job.maxAttempts) :
    (w.handleFailure job error).run.atBench v ⟨⟨[doc], keys, records⟩, none, jobs, n⟩ =
      (.ok (.retrying job.id job.attempts (w.settings.backoff.delayFor job.attempts)),
        ⟨⟨[Store.retried doc error (retryAt (v.around n).time
          ((w.settings.backoff.delayFor job.attempts).toNat * 1000000)) (v.around n).time],
          keys, records⟩, none, jobs, n + 3⟩) := by
  have found := same ▸ @Store.find?_single doc keys records
  rw [retry_ends w v _ _ error found held left, Store.put_single keys records (Store.retried_id ..)]

/-- A failure of the last claim: the job fails, and gets a record. -/
theorem handleFailure_atBench_fail (error : Failure) (held : doc.isLockedBy w.id)
    (same : doc.id = job.id) (spent : job.maxAttempts ≤ job.attempts) :
    ∃ record keys' now, (w.handleFailure job error).run.atBench v
        ⟨⟨[doc], keys, []⟩, none, jobs, n⟩ =
      (.ok (.failed job.id doc.attempts (some record.id)),
        ⟨⟨[Store.failed doc error now], keys', [record]⟩, none, jobs, n + 8⟩) ∧
      record.IsOf (Store.failed doc error now) := by
  have found := same ▸ @Store.find?_single doc keys []
  rw [handleFailure_of_spent w error spent, fail_ends w v _ _ error found held, Store.putFailed,
    Store.put_single keys [] (Store.failed_id ..)]
  exact ⟨_, _, _, rfl, DeadLetter.isOf_ofJob _ _ _⟩

/-! ## An iteration -/

/-- The one job there is can be claimed: it is claimed and treated. -/
theorem runOnce_atBench_claimed {h : handler} (registered : w.registry.find? doc.jobType = some h)
    (claimable : doc.isClaimable (v.around (n + 3)).time) :
    ∃ doc' m, n ≤ m ∧ doc'.isLockedBy w.id ∧
      doc'.IsRenewalOf (Store.claimed doc w.id (v.around (n + 3)).time) ∧
      ∀ outcome t jobs' m',
        (w.finish (Store.claimed doc w.id (v.around (n + 3)).time)
          (v.results jobs.length)).run.atBench v
          ⟨⟨[doc'], keys, records⟩, none,
            jobs ++ [Store.claimed doc w.id (v.around (n + 3)).time], m⟩ =
          (.ok outcome, ⟨t, none, jobs', m'⟩) →
        w.runOnce.run.atBench v ⟨⟨[doc], keys, records⟩, none, jobs, n⟩ =
          (.ok (some outcome), ⟨t, none, jobs', m' + 6⟩) := by
  have claims := @claim_atBench handler w v doc jobs n keys records
    (Job.lockExpired_of_queued (Job.status_of_isClaimable claimable))
  rw [Store.claimNext_single keys records w.id claimable] at claims
  have held : (Store.claimed doc w.id (v.around (n + 3)).time).isLockedBy w.id := by
    simp [Store.claimed, Job.isLockedBy]
  obtain ⟨doc', m, later, held', renewal, treated⟩ :=
    @process_of_finish handler w v jobs (n + 6) _ (Store.claimed doc w.id (v.around (n + 3)).time) h
      registered (Store.find?_single keys records) held
  rw [Store.put_single keys records renewal.id] at treated
  refine ⟨doc', m, by omega, held', renewal, fun outcome t jobs' m' finished => ?_⟩
  rw [runOnce, QueueProgram.atBench_bind_ok v claims]
  dsimp only
  rw [map_eq_pure_bind, QueueProgram.atBench_bind_ok v (treated outcome t jobs' m' finished)]
  rfl

/-- The one job there is cannot be claimed: nothing changes. -/
theorem runOnce_atBench_none (unclaimable : ∀ now, doc.isClaimable now = false)
    (unexpired : ∀ now, doc.lockExpired now = false) :
    w.runOnce.run.atBench v ⟨⟨[doc], keys, records⟩, none, jobs, n⟩ =
      (.ok none, ⟨⟨[doc], keys, records⟩, none, jobs, n + 7⟩) := by
  have claims := @claim_atBench handler w v doc jobs n keys records unexpired
  rw [Store.claimNext_single_none keys records w.id (unclaimable _)] at claims
  rw [runOnce, QueueProgram.atBench_bind_ok v claims]
  dsimp only
  rw [QueueProgram.atBench_bind_ok v (QueueProgram.atBench_tell v _ _ _ _ _ _)]
  rfl

end Worker

end JobQueue
