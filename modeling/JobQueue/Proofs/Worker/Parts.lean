import JobQueue.Proofs.Time.Forward
import JobQueue.Proofs.Worker.Bench

/-!
# The parts of an iteration

What a worker that works alone makes of a job that it holds, program by program, whatever else is in
the store: it hands the job to its handler, and ends the attempt as the handler ended.

* `Store.put`: a store with one job put in, and what the owner of a lock does to its job.
* `Worker.dispatch_ends`: a handler ends as it was given, and leaves the job with the worker, its
  lock renewed any number of times.
* `Worker.succeed_ends`, `Worker.retry_ends` and `Worker.fail_ends`: the three ends of an attempt.
* `Worker.Closing`: how an attempt can end, and `Worker.process_ends`: there are no other ways.
-/

namespace JobQueue

variable {handler : Type}

/-! ## Renewals -/

namespace Job.IsRenewalOf

variable {doc job : Job} (h : doc.IsRenewalOf job)

include h

theorem id : doc.id = job.id := by
  obtain ⟨_, _, _, rfl⟩ := h
  rfl

theorem attempts : doc.attempts = job.attempts := by
  obtain ⟨_, _, _, rfl⟩ := h
  rfl

theorem releaseKey (keys : List (String × Uuid)) :
    Store.releaseKey keys doc = Store.releaseKey keys job := by
  obtain ⟨_, _, _, rfl⟩ := h
  rfl

/-! The end of an attempt leaves no trace of the renewals. -/

theorem succeeded (value : Json) (now : Instant) :
    Store.succeeded doc value now = Store.succeeded job value now := by
  obtain ⟨_, _, _, rfl⟩ := h
  rfl

theorem retried (error : Failure) (availableAt now : Instant) :
    Store.retried doc error availableAt now = Store.retried job error availableAt now := by
  obtain ⟨_, _, _, rfl⟩ := h
  rfl

theorem failed (error : Failure) (now : Instant) :
    Store.failed doc error now = Store.failed job error now := by
  obtain ⟨_, _, _, rfl⟩ := h
  rfl

end Job.IsRenewalOf

/-! ## One job of a store -/

namespace Store

variable {s : Store} {doc job : Job} {worker : String} {now : Instant}

@[simp] theorem succeeded_id (job : Job) (value : Json) (now : Instant) :
    (succeeded job value now).id = job.id := rfl

@[simp] theorem retried_id (job : Job) (error : Failure) (availableAt now : Instant) :
    (retried job error availableAt now).id = job.id := rfl

@[simp] theorem failed_id (job : Job) (error : Failure) (now : Instant) :
    (failed job error now).id = job.id := rfl

/-- A store with one job put in. -/
def put (s : Store) (job : Job) : Store := { s with jobs := putJob job s.jobs }

theorem find?_put_self (s : Store) (job : Job) : (s.put job).find? job.id = some job := by
  rw [put, find?_put, if_pos rfl]

theorem find?_put_of_ne (s : Store) {id : Uuid} (h : id ≠ job.id) :
    (s.put job).find? id = s.find? id := by
  rw [put, find?_put, if_neg h.symm]

theorem putJob_putJob (same : doc.id = job.id) (jobs : List Job) :
    putJob doc (putJob job jobs) = putJob doc jobs := by
  induction jobs with
  | nil => exact if_pos same.symm
  | cons other rest ih =>
    by_cases here : other.id = job.id
    · simp [putJob_cons, here, same]
    · have there : ¬other.id = doc.id := same ▸ here
      rw [putJob_cons, if_neg here, putJob_cons, if_neg there, ih, putJob_cons, if_neg there]

/-- Of two documents that are put in under one identifier, the second one stays. -/
theorem put_put (s : Store) (same : doc.id = job.id) : (s.put job).put doc = s.put doc := by
  rw [put, put, putJob_putJob same]
  rfl

theorem putJob_of_find? {jobs : List Job}
    (found : jobs.find? (fun other => other.id = doc.id) = some doc) : putJob doc jobs = jobs := by
  induction jobs with
  | nil => cases found
  | cons other rest ih =>
    rw [List.find?_cons] at found
    by_cases here : other.id = doc.id
    · simp only [here, decide_true, Option.some.injEq] at found
      rw [putJob_cons, if_pos here, found]
    · simp only [here, decide_false] at found
      rw [putJob_cons, if_neg here, ih found]

/-- A document that is put in where it stands changes nothing. -/
theorem put_of_find? (found : s.find? doc.id = some doc) : s.put doc = s := by
  rw [put, putJob_of_find? found]

/-- What a call of the owner does to its job. -/
theorem updateLocked_of_held (found : s.find? job.id = some doc) (held : doc.isLockedBy worker)
    (change : Job → Job) : s.updateLocked job.id worker change = (true, s.put (change doc)) := by
  rw [updateLocked, lockedBy?_eq_some_iff.mpr ⟨found, held⟩]
  rfl

/-- Renewals leave a job as it was, but for the times of its lock. -/
theorem after_renewals (found : s.find? doc.id = some doc) (held : doc.isLockedBy worker)
    (renewal : doc.IsRenewalOf job) (times : List Instant) :
    ∃ doc', s.after (times.map (.heartbeat doc.id worker)) = s.put doc' ∧
      doc'.isLockedBy worker ∧ doc'.IsRenewalOf job := by
  induction times generalizing s doc with
  | nil => exact ⟨doc, (put_of_find? found).symm, held, renewal⟩
  | cons time times ih =>
    have beat : (s.perform (.heartbeat doc.id worker time)).2 = s.put (renewed doc time) :=
      congrArg Prod.snd (updateLocked_of_held found held fun doc => renewed doc time)
    have again := renewal.renewed time
    obtain ⟨doc', rest, held', renewal'⟩ := ih (find?_put_self s (renewed doc time)) held again
    refine ⟨doc', ?_, held', renewal'⟩
    rw [List.map_cons, after_cons, beat]
    exact rest.trans (put_put s (renewal'.id.trans again.id.symm))

/-- A job that failed for good, with its key given back. -/
def putFailed (s : Store) (job : Job) (error : Failure) (now : Instant) : Store :=
  { s.put (failed job error now) with keys := releaseKey s.keys job }

theorem markFailed_of_held (found : s.find? job.id = some doc) (held : doc.isLockedBy worker)
    (error : Failure) (now : Instant) :
    s.markFailed job.id worker error now =
      (some (failed doc error now), s.putFailed doc error now) := by
  rw [markFailed, lockedBy?_eq_some_iff.mpr ⟨found, held⟩]
  rfl

end Store

/-! ## The parts of an iteration -/

namespace Worker

variable (w : Worker handler) (v : Scenery) (jobs : List Job) (n : Nat) {s : Store} {doc job : Job}

/-- A handler runs: it ends as it was given, and what was renewed meanwhile is the lock. -/
theorem dispatch_ends (h : handler) (found : s.find? job.id = some job)
    (held : job.isLockedBy w.id) :
    ∃ doc m, (w.dispatch h job).atBench v ⟨s, none, jobs, n⟩ =
        (v.results jobs.length, ⟨s.put doc, none, jobs ++ [job], m⟩) ∧
      n ≤ m ∧ doc.isLockedBy w.id ∧ doc.IsRenewalOf job := by
  obtain ⟨doc, beats, held', renewal⟩ := Store.after_renewals found held
    (Job.isRenewalOf_refl job) (v.renewals (n + 1) ++ v.renewals (n + 2) ++ v.renewals (n + 3) ++
      v.renewals (n + 4))
  simp only [List.map_append, Store.after_append] at beats
  -- the store when the handler is done, before the renewals stop
  obtain ⟨t, ht⟩ : ∃ t : Store, t = ((s.after
      ((v.renewals (n + 1)).map (.heartbeat job.id w.id))).after
      ((v.renewals (n + 2)).map (.heartbeat job.id w.id))).after
      ((v.renewals (n + 3)).map (.heartbeat job.id w.id)) := ⟨_, rfl⟩
  rw [← ht] at beats
  have started : (Program.request (.startRenewal job.id w.id : Effect handler)).atBench v
      ⟨s, none, jobs, n⟩ = ((), ⟨s, some (job.id, w.id), jobs, n + 1⟩) := rfl
  have ran : (Program.within (.dispatch job) (Program.request (.dispatch h job))).atBench v
      ⟨s, some (job.id, w.id), jobs, n + 1⟩ =
        (v.results jobs.length, ⟨t, some (job.id, w.id), jobs ++ [job], n + 4⟩) := by
    rw [ht]
    rfl
  have stopped : (Program.request (.stopRenewal : Effect handler)).atBench v
      ⟨t, some (job.id, w.id), jobs ++ [job], n + 4⟩ =
        ((v.around (n + 4)).renewalError, ⟨s.put doc, none, jobs ++ [job], n + 5⟩) := by
    rw [← beats]
    rfl
  have whole : ∃ m, n ≤ m ∧ (w.dispatch h job).atBench v ⟨s, none, jobs, n⟩ =
      (v.results jobs.length, ⟨s.put doc, none, jobs ++ [job], m⟩) := by
    rw [dispatch, Program.atBench_bind_of v started, Program.atBench_bind_of v ran,
      Program.atBench_bind_of v stopped]
    cases (v.around (n + 4)).renewalError with
    | none => exact ⟨n + 5, by omega, rfl⟩
    | some why => exact ⟨n + 6, by omega, rfl⟩
  obtain ⟨m, later, whole⟩ := whole
  exact ⟨doc, m, whole, later, held', renewal⟩

/-- A value: the job succeeds. -/
theorem succeed_ends (value : Json) (found : s.find? job.id = some doc)
    (held : doc.isLockedBy w.id) :
    (w.succeed job value).run.atBench v ⟨s, none, jobs, n⟩ =
      (.ok (.succeeded job.id),
        ⟨s.put (Store.succeeded doc value (v.around n).time), none, jobs, n + 2⟩) := by
  have accepted : s.perform (.markSucceeded job.id w.id value (v.around n).time) =
      (.ok true, s.put (Store.succeeded doc value (v.around n).time)) := by
    rw [Store.perform, Store.markSucceeded, Store.updateLocked_of_held found held]
  rw [succeed, QueueProgram.atBench_bind_ok v (QueueProgram.atBench_now v _ _ _),
    QueueProgram.atBench_bind_ok v (QueueProgram.atBench_call v _ _ _ accepted)]
  rfl

/-- The failure that an attempt at a job ends with when its handler ends so: one of the handler's own
making, or else one that tells of its error or of its panic. -/
def failure? : HandlerResult → Option Failure
  | .ok _ => none
  | .error (.error e) =>
    some (e.failure?.getD ⟨"HANDLER_ERROR", "Job handler failed", e.display⟩)
  | .error (.panic message) =>
    some ⟨"HANDLER_PANIC", "Job handler panicked", message.getD "handler panicked"⟩

theorem retryAt_eq (now : Instant) (nanoseconds : Nat) :
    retryAt now nanoseconds = (now.add? nanoseconds).getD .last := by
  rw [retryAt, Instant.after?_eq_add?]

/-- A failure with claims left: the job is queued again. -/
theorem retry_ends (error : Failure) (found : s.find? job.id = some doc)
    (held : doc.isLockedBy w.id) (left : job.attempts < job.maxAttempts) :
    (w.handleFailure job error).run.atBench v ⟨s, none, jobs, n⟩ =
      (.ok (.retrying job.id job.attempts (w.settings.backoff.delayFor job.attempts)),
        ⟨s.put (Store.retried doc error (retryAt (v.around n).time
          ((w.settings.backoff.delayFor job.attempts).toNat * 1000000)) (v.around n).time),
          none, jobs, n + 3⟩) := by
  have decision : decideAfterFailure job.attempts job.maxAttempts w.settings.backoff =
      .retry (w.settings.backoff.delayFor job.attempts) := by
    rw [decideAfterFailure, shouldDeadLetter, decide_eq_false (UInt32.not_le.mpr left)]
    rfl
  obtain ⟨delay, hdelay⟩ : ∃ delay, delay = w.settings.backoff.delayFor job.attempts := ⟨_, rfl⟩
  rw [← hdelay] at decision ⊢
  have accepted : s.perform (.markRetry job.id w.id error
        (retryAt (v.around n).time (delay.toNat * 1000000)) (v.around n).time) =
      (.ok true, s.put (Store.retried doc error
        (retryAt (v.around n).time (delay.toNat * 1000000)) (v.around n).time)) := by
    rw [Store.perform, Store.markRetry, Store.updateLocked_of_held found held]
  rw [handleFailure, decision]
  dsimp only
  rw [QueueProgram.atBench_bind_ok v (QueueProgram.atBench_now v _ _ _),
    QueueProgram.atBench_bind_ok v (QueueProgram.atBench_call v _ _ _ accepted)]
  rfl

/-- A failure of the last claim is the end of the job. -/
theorem handleFailure_of_spent (error : Failure) (spent : job.maxAttempts ≤ job.attempts) :
    w.handleFailure job error = w.fail job error := by
  have decision : decideAfterFailure job.attempts job.maxAttempts w.settings.backoff =
      .deadLetter := by
    rw [decideAfterFailure, shouldDeadLetter, decide_eq_true spent]
    rfl
  rw [handleFailure, decision]

/-- The record of a failed job is written. -/
theorem bury_ends (job failed : Job) (s : Store) :
    (bury job failed : QueueProgram handler (Option Uuid)).run.atBench v ⟨s, none, jobs, n⟩ =
      (.ok (some (v.around (n + 1)).id),
        ⟨s.insertDeadLetter (.ofJob (v.around (n + 1)).id failed (v.around n).time), none, jobs,
          n + 6⟩) := rfl

/-- A failure for good: the job fails, and gets a record. -/
theorem fail_ends (error : Failure) (found : s.find? job.id = some doc)
    (held : doc.isLockedBy w.id) :
    (w.fail job error).run.atBench v ⟨s, none, jobs, n⟩ =
      (.ok (.failed job.id doc.attempts (some (v.around (n + 3)).id)),
        ⟨(s.putFailed doc error (v.around n).time).insertDeadLetter
          (.ofJob (v.around (n + 3)).id (Store.failed doc error (v.around n).time)
            (v.around (n + 2)).time), none, jobs, n + 8⟩) := by
  have accepted : s.perform (.markFailed job.id w.id error (v.around n).time) =
      (.ok (some (Store.failed doc error (v.around n).time)),
        s.putFailed doc error (v.around n).time) := by
    rw [Store.perform, Store.markFailed_of_held found held]
  rw [fail, QueueProgram.atBench_bind_ok v (QueueProgram.atBench_now v _ _ _),
    QueueProgram.atBench_bind_ok v (QueueProgram.atBench_call v _ _ _ accepted)]
  dsimp only
  rw [QueueProgram.atBench_bind_ok v (bury_ends v _ _ _ _ _)]
  rfl

/-- A handler that failed is told of, and then its failure is treated. -/
theorem finish_atBench_failing {result : HandlerResult} {error : Failure}
    (failing : failure? result = some error) (s : Store) :
    (w.finish job result).run.atBench v ⟨s, none, jobs, n⟩ =
      (w.handleFailure job error).run.atBench v ⟨s, none, jobs, n + 1⟩ := by
  cases result with
  | ok value => cases failing
  | error why =>
    cases why with
    | error e =>
      cases failing
      rw [finish, QueueProgram.atBench_bind_ok v (QueueProgram.atBench_tell v _ _ _ _ _ _)]
      rfl
    | panic message =>
      cases failing
      rw [finish, QueueProgram.atBench_bind_ok v (QueueProgram.atBench_tell v _ _ _ _ _ _)]
      rfl

/-! ## An attempt -/

/-- A job fails for good: it has no handler, or its handler failed on the last claim. -/
inductive Dooms (w : Worker handler) (result : HandlerResult) (job : Job) : Failure → Prop
  | unknown (unregistered : w.registry.find? job.jobType = none) :
      Dooms w result job ⟨"INVALID_JOB_TYPE", "Invalid job type",
        "no handler registered for job type '" ++ job.jobType ++ "'"⟩
  | spent {h : handler} {error : Failure} (registered : w.registry.find? job.jobType = some h)
      (failing : failure? result = some error) (spent : job.maxAttempts ≤ job.attempts) :
      Dooms w result job error

/-- How an attempt at a job ends and what it leaves, between two effects. -/
inductive Closing (w : Worker handler) (v : Scenery) (n m : Nat) (result : HandlerResult) (s : Store)
    (job : Job) : Outcome → Store → Prop
  | succeeded {h : handler} {value : Json} {k : Nat}
      (registered : w.registry.find? job.jobType = some h) (ended : result = .ok value)
      (after : n ≤ k) (before : k < m) :
      Closing w v n m result s job (.succeeded job.id)
        (s.put (Store.succeeded job value (v.around k).time))
  | retrying {h : handler} {error : Failure} {k : Nat}
      (registered : w.registry.find? job.jobType = some h) (failing : failure? result = some error)
      (left : job.attempts < job.maxAttempts) (after : n ≤ k) (before : k < m) :
      Closing w v n m result s job
        (.retrying job.id job.attempts (w.settings.backoff.delayFor job.attempts))
        (s.put (Store.retried job error (retryAt (v.around k).time
          ((w.settings.backoff.delayFor job.attempts).toNat * 1000000)) (v.around k).time))
  | failed {error : Failure} {k i j : Nat} (doomed : w.Dooms result job error) (after : n ≤ k)
      (made : k < i) (drawn : i < j) (before : j < m) :
      Closing w v n m result s job (.failed job.id job.attempts (some (v.around j).id))
        ((s.putFailed job error (v.around k).time).insertDeadLetter
          (.ofJob (v.around j).id (Store.failed job error (v.around k).time) (v.around i).time))

variable {n} in
theorem Closing.mono {m n' m' : Nat} {result : HandlerResult} {outcome : Outcome} {t : Store}
    (h : w.Closing v n m result s job outcome t) (before : n' ≤ n) (after : m ≤ m') :
    w.Closing v n' m' result s job outcome t := by
  cases h with
  | succeeded registered ended => exact .succeeded registered ended (by omega) (by omega)
  | retrying registered failing left => exact .retrying registered failing left (by omega) (by omega)
  | failed doomed after made drawn => exact .failed doomed (by omega) made drawn (by omega)

/-- An attempt is ended as the handler ended, and the renewals beside it leave no trace. -/
theorem finish_ends {h : handler} (registered : w.registry.find? job.jobType = some h)
    (held : doc.isLockedBy w.id) (renewal : doc.IsRenewalOf job) (result : HandlerResult) :
    ∃ outcome t m, (w.finish job result).run.atBench v ⟨s.put doc, none, jobs, n⟩ =
        (.ok outcome, ⟨t, none, jobs, m⟩) ∧ w.Closing v n m result s job outcome t := by
  have found : (s.put doc).find? job.id = some doc := by
    rw [← renewal.id]
    exact s.find?_put_self doc
  have again (final : Job) (same : final.id = job.id) : (s.put doc).put final = s.put final :=
    s.put_put (same.trans renewal.id.symm)
  cases failing : failure? result with
  | none =>
    cases result with
    | error why => cases why <;> cases failing
    | ok value =>
      have ended := succeed_ends w v jobs n value found held
      rw [renewal.succeeded, again _ (Store.succeeded_id job value _)] at ended
      exact ⟨_, _, _, ended, .succeeded registered rfl (by omega) (by omega)⟩
  | some error =>
    rw [finish_atBench_failing w v jobs n failing]
    by_cases left : job.attempts < job.maxAttempts
    · have ended := retry_ends w v jobs (n + 1) error found held left
      rw [renewal.retried, again _ (Store.retried_id job error _ _)] at ended
      exact ⟨_, _, _, ended, .retrying registered failing left (by omega) (by omega)⟩
    · have spent := UInt32.not_lt.mp left
      rw [handleFailure_of_spent w error spent]
      have ended := fail_ends w v jobs (n + 1) error found held
      have same (now : Instant) : (s.put doc).putFailed doc error now = s.putFailed job error now := by
        rw [Store.putFailed, Store.putFailed, renewal.failed, again _ (Store.failed_id job error now),
          renewal.releaseKey]
        rfl
      rw [renewal.failed, same, renewal.attempts] at ended
      exact ⟨_, _, _, ended, .failed (.spent registered failing spent) (by omega) (by omega)
        (by omega) (by omega)⟩

/-- A job with a handler is handed to it, and then the attempt is ended as the handler ended. -/
theorem process_of_finish {h : handler} (registered : w.registry.find? job.jobType = some h)
    (found : s.find? job.id = some job) (held : job.isLockedBy w.id) :
    ∃ doc m, n ≤ m ∧ doc.isLockedBy w.id ∧ doc.IsRenewalOf job ∧
      ∀ outcome t jobs' m', (w.finish job (v.results jobs.length)).run.atBench v
          ⟨s.put doc, none, jobs ++ [job], m⟩ = (.ok outcome, ⟨t, none, jobs', m'⟩) →
        (w.process job).run.atBench v ⟨s, none, jobs, n⟩ =
          (.ok outcome, ⟨t, none, jobs', m' + 6⟩) := by
  obtain ⟨doc, m, ran, later, held', renewal⟩ :=
    dispatch_ends w v jobs (n + 1) h found held
  refine ⟨doc, m + 1, by omega, held', renewal, fun outcome t jobs' m' finished => ?_⟩
  have ended := @QueueProgram.atBench_within handler _ v _ _ _ (.finalize job) _ _ _ _ _ finished
  rw [process, registered]
  dsimp only
  rw [QueueProgram.atBench_bind_ok v
      (QueueProgram.atBench_lift v (Program.atBench_stopwatch v _ _ _)),
    QueueProgram.atBench_bind_ok v (QueueProgram.atBench_lift v ran),
    QueueProgram.atBench_bind_ok v ended,
    QueueProgram.atBench_bind_ok v
      (QueueProgram.atBench_lift v (Program.atBench_stopwatch v _ _ _)),
    QueueProgram.atBench_bind_ok v
      (QueueProgram.atBench_lift v (Program.atBench_reportDuration v _ _ _ _ _ _)),
    QueueProgram.atBench_bind_ok v
      (QueueProgram.atBench_lift v (Program.atBench_reportFinalized v _ _ _ _ _))]
  rfl

/-- **An attempt** at a job that the worker holds ends in one of three ways. -/
theorem process_ends (found : s.find? job.id = some job) (held : job.isLockedBy w.id) :
    ∃ outcome t jobs' m, (w.process job).run.atBench v ⟨s, none, jobs, n⟩ =
        (.ok outcome, ⟨t, none, jobs', m⟩) ∧
      w.Closing v n m (v.results jobs.length) s job outcome t := by
  cases registered : w.registry.find? job.jobType with
  | none =>
    have ended := fail_ends w v jobs (n + 1) (.invalidJobType job.jobType) found held
    rw [process, registered]
    dsimp only
    rw [QueueProgram.atBench_bind_ok v (QueueProgram.atBench_tell v _ _ _ _ _ _),
      QueueProgram.atBench_bind_ok v ended,
      QueueProgram.atBench_bind_ok v
        (QueueProgram.atBench_lift v (Program.atBench_reportFinalized v _ _ _ _ _))]
    exact ⟨_, _, _, _, rfl, .failed (.unknown registered) (by omega) (by omega) (by omega)
      (by omega)⟩
  | some h =>
    obtain ⟨doc, m, later, held', renewal, treated⟩ :=
      process_of_finish w v jobs n registered found held
    obtain ⟨outcome, t, m', finished, closing⟩ := finish_ends w v (jobs ++ [job]) m (s := s)
      registered held' renewal (v.results jobs.length)
    exact ⟨outcome, t, _, _, treated outcome t _ m' finished, closing.mono w v later (by omega)⟩

end Worker

end JobQueue
