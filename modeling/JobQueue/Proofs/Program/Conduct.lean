import JobQueue.Proofs.Program.Obeys
import JobQueue.Worker.Turns

/-!
# The conduct of workers and clients

The programs of the queue obey the rules of `JobQueue.Proofs.Program.Phase`. For each function that
makes calls there is one lemma, which says from which phase it obeys and where it ends.

* `Worker.runOnce_obeys`: an iteration obeys the rules of its worker. It ends with no record owed,
  and if the end of its attempt was refused, then its outcome is that the lock was lost.
* `Client.enqueue_obeys`, `DeadLetterQueue.retry_obeys`: only new jobs are submitted.
-/

namespace JobQueue

variable {handler α : Type} {p : Phase}

/-! ## Reports -/

namespace Program

variable {permits : Phase → Call → Prop} {Q : Unit → Phase → Prop}

@[simp] theorem obeys_reportEnqueued {job : Job} :
    (reportEnqueued job : Program handler Unit).Obeys permits Q p ↔ Q () p := by
  simp [reportEnqueued]

@[simp] theorem obeys_reportFinalized {job : Job} {outcome : String} :
    (reportFinalized job outcome : Program handler Unit).Obeys permits Q p ↔ Q () p := by
  simp [reportFinalized]

@[simp] theorem obeys_reportReleased {worker : String} {requeued exhausted : UInt64} :
    (reportReleased worker requeued exhausted : Program handler Unit).Obeys permits Q p ↔
      Q () p := by
  simp [reportReleased]

@[simp] theorem obeys_reportPruned {removed : UInt64} {days : UInt32} :
    (reportPruned removed days : Program handler Unit).Obeys permits Q p ↔ Q () p := by
  unfold reportPruned
  split <;> simp

@[simp] theorem obeys_reportDuration {jobType outcome : String} {nanoseconds : Nat} :
    (reportDuration jobType outcome nanoseconds : Program handler Unit).Obeys permits Q p ↔
      Q () p := by
  simp [reportDuration]

end Program

/-! ## Records -/

/-- The phase once the record of the first owed job was made. -/
def Phase.paid (p : Phase) : Phase := { p with owed := p.owed.tail, drawn := none }

@[simp] theorem Phase.owed_paid (p : Phase) : p.paid.owed = p.owed.tail := rfl

@[simp] theorem Phase.stage_paid (p : Phase) : p.paid.stage = p.stage := rfl

variable {w : Worker handler} {job : Job} {rest : List Job}

/-- A worker makes the record of the first job that is owed one. In memory that does not fail. -/
theorem DeadLetterQueue.moveJob_obeys {Q : Except QueueError DeadLetter → Phase → Prop}
    (stage : p.stage = .released ∨ p.stage = .settled) (owed : p.owed = job :: rest)
    (h : ∀ record, Q (.ok record) p.paid) :
    (moveJob job : QueueProgram handler DeadLetter).run.Obeys w.permits Q p := by
  simp only [moveJob, QueueProgram.obeys_run_bind, QueueProgram.obeys_run_now,
    QueueProgram.obeys_run_freshId, QueueProgram.obeys_run_within,
    QueueProgram.obeys_run_call (.insertDeadLetter _)]
  intro now id
  refine ⟨⟨stage, rfl, job, rest, owed, DeadLetter.isOf_ofJob id job now⟩, fun s => ?_⟩
  simp only [Store.perform, QueueProgram.obeys_run_tell]
  exact h _

/-- The records of all owed jobs are made, one after the other. -/
theorem Worker.buryAll_obeys {Q : Unit → Phase → Prop} (stage : p.stage = .released)
    (h : ∀ q : Phase, q.stage = .released → q.owed = [] → Q () q) :
    (buryAll p.owed : Program handler Unit).Obeys w.permits Q p := by
  generalize howed : p.owed = jobs
  induction jobs generalizing p with
  | nil => exact h p stage howed
  | cons job rest ih =>
    simp only [buryAll, buryExhausted, Program.obeys_bind, Program.obeys_reportFinalized]
    refine DeadLetterQueue.moveJob_obeys (.inl stage) howed fun record => ?_
    exact ih (p := p.paid) stage (by rw [Phase.owed_paid, howed, List.tail_cons])

/-- A worker that failed a job makes its record. -/
theorem Worker.bury_obeys {failed : Job} {Q : Except QueueError (Option Uuid) → Phase → Prop}
    (settled : p.stage = .settled) (owed : p.owed = failed :: rest)
    (h : ∀ record, Q (.ok (some record)) p.paid) :
    (bury job failed : QueueProgram handler (Option Uuid)).run.Obeys w.permits Q p := by
  simp only [bury, QueueProgram.obeys_run_bind, QueueProgram.obeys_run_lift]
  exact DeadLetterQueue.moveJob_obeys (.inr settled) owed fun record => h record.id

/-! ## The end of an attempt -/

/-- An attempt may end so: every record is made, and if the end was refused then the outcome is that
the lock was lost. -/
def Attempt (r : Except QueueError Outcome) (p : Phase) : Prop :=
  p.owed = [] ∧ ∀ id, p.stage = .lost id → r = .ok (.lockLost id)

section

variable {c : Call} {answer : Except QueueError c.Answer} {id : Uuid} {owner : String}

/-- After an accepted end every outcome will do, once the records are made. -/
theorem attempt_of_settled {r : Except QueueError Outcome} (settled : p.stage = .settled)
    (paid : p.owed = []) : Attempt r p := by
  refine ⟨paid, fun id lost => ?_⟩
  rw [settled] at lost
  cases lost

/-- After a refused end the outcome must be that the lock was lost. -/
theorem attempt_of_refused (ends : c.ends? = some (id, owner)) (refused : c.accepts answer = false)
    (paid : p.owed = []) : Attempt (.ok (.lockLost id)) (p.called c answer) := by
  refine ⟨?_, fun other lost => ?_⟩
  · rw [Phase.owed_called_of_ends ends, paid, Call.failed_of_refused ends refused, List.append_nil]
  · rw [Phase.stage_called, Stage.called_of_ends _ ends, refused] at lost
    cases lost
    rfl

end

namespace Worker

@[simp] theorem obeys_lockLost {permits : Phase → Call → Prop}
    {Q : Except QueueError Outcome → Phase → Prop} :
    (w.lockLost job).run.Obeys permits Q p ↔ Q (.ok (.lockLost job.id)) p := by
  simp only [lockLost, QueueProgram.obeys_run_bind, QueueProgram.obeys_run_tell,
    QueueProgram.obeys_run_pure]

theorem succeed_obeys {result : Json} (treating : p.stage = .treating job) (paid : p.owed = []) :
    (w.succeed job result).run.Obeys w.permits Attempt p := by
  simp only [succeed, QueueProgram.obeys_run_bind, QueueProgram.obeys_run_now,
    QueueProgram.obeys_run_call (.markSucceeded _ _ _ _), Store.perform]
  intro now
  refine ⟨⟨rfl, job, treating, rfl⟩, fun s => ?_⟩
  cases (s.markSucceeded job.id w.id result now).1 with
  | true => exact attempt_of_settled rfl (by rw [Phase.owed_called_of_ends rfl, paid]; rfl)
  | false => exact obeys_lockLost.mpr (attempt_of_refused rfl rfl paid)

theorem fail_obeys {error : Failure} (treating : p.stage = .treating job) (paid : p.owed = [])
    (final : w.registry.find? job.jobType = none ∨ job.maxAttempts ≤ job.attempts) :
    (w.fail job error).run.Obeys w.permits Attempt p := by
  simp only [fail, QueueProgram.obeys_run_bind, QueueProgram.obeys_run_now,
    QueueProgram.obeys_run_call (.markFailed _ _ _ _), Store.perform]
  intro now
  refine ⟨⟨rfl, job, treating, rfl, final⟩, fun s => ?_⟩
  cases (s.markFailed job.id w.id error now).1 with
  | none => exact obeys_lockLost.mpr (attempt_of_refused rfl rfl paid)
  | some failed =>
    simp only [QueueProgram.obeys_run_bind]
    have owed : (p.called (.markFailed job.id w.id error now) (.ok (some failed))).owed =
        [failed] := by
      rw [Phase.owed_called_of_ends rfl, paid]
      rfl
    refine bury_obeys rfl owed fun record => attempt_of_settled rfl ?_
    rw [Phase.owed_paid, owed, List.tail_cons]

/-- A job that failed is retried if its claim left it attempts, and failed otherwise. -/
theorem handleFailure_obeys {error : Failure} (treating : p.stage = .treating job)
    (paid : p.owed = []) : (w.handleFailure job error).run.Obeys w.permits Attempt p := by
  unfold handleFailure decideAfterFailure
  split
  next heq =>
    split at heq
    next hspent => exact fail_obeys treating paid (.inr (by simpa [shouldDeadLetter] using hspent))
    next => cases heq
  next delayMs heq =>
    split at heq
    next => cases heq
    next hspared =>
      have hleft : job.attempts < job.maxAttempts := by simpa [shouldDeadLetter] using hspared
      simp only [QueueProgram.obeys_run_bind, QueueProgram.obeys_run_now,
        QueueProgram.obeys_run_call (.markRetry _ _ _ _ _), Store.perform]
      intro now
      refine ⟨⟨rfl, job, treating, rfl, hleft⟩, fun s => ?_⟩
      cases (s.markRetry job.id w.id error (retryAt now (delayMs.toNat * 1000000)) now).1 with
      | true =>
        simp only [↓reduceIte, QueueProgram.obeys_run_bind, QueueProgram.obeys_run_tell]
        exact attempt_of_settled rfl (by rw [Phase.owed_called_of_ends rfl, paid]; rfl)
      | false => exact obeys_lockLost.mpr (attempt_of_refused rfl rfl paid)

theorem finish_obeys {result : HandlerResult} (treating : p.stage = .treating job)
    (paid : p.owed = []) : (w.finish job result).run.Obeys w.permits Attempt p := by
  rcases result with (e | message) | value
  · simp only [finish, QueueProgram.obeys_run_bind, QueueProgram.obeys_run_tell]
    exact handleFailure_obeys treating paid
  · simp only [finish, QueueProgram.obeys_run_bind, QueueProgram.obeys_run_tell]
    exact handleFailure_obeys treating paid
  · exact succeed_obeys treating paid

/-! ## An iteration -/

/-- Running the handler makes no call. The renewals of the lock are another actor. -/
theorem dispatch_obeys {permits : Phase → Call → Prop} {h : handler}
    {Q : HandlerResult → Phase → Prop} (quiet : ∀ result, Q result p) :
    (w.dispatch h job).Obeys permits Q p := by
  unfold dispatch
  simp only [Program.obeys_bind, Program.obeys_within, Program.obeys_request (.dispatch _ _),
    Program.obeys_request (.startRenewal _ _), Program.obeys_request .stopRenewal]
  refine ⟨trivial, fun _ _ => ⟨trivial, fun result _ => ⟨trivial, fun why _ => ?_⟩⟩⟩
  cases why with
  | none => exact quiet result
  | some why =>
    rw [Program.obeys_bind, Program.obeys_tell]
    exact quiet result

theorem process_obeys (treating : p.stage = .treating job) (paid : p.owed = []) :
    (w.process job).run.Obeys w.permits Attempt p := by
  unfold process
  cases hfind : w.registry.find? job.jobType with
  | none =>
    simp only [QueueProgram.obeys_run_bind, QueueProgram.obeys_run_tell]
    refine (fail_obeys treating paid (.inl hfind)).mono fun r q h => ?_
    cases r with
    | error e => exact h
    | ok outcome => simpa using h
  | some h =>
    simp only [QueueProgram.obeys_run_bind, QueueProgram.obeys_run_lift,
      QueueProgram.obeys_run_within, Program.obeys_request .stopwatch]
    refine ⟨trivial, fun start _ => dispatch_obeys fun result => ?_⟩
    refine (finish_obeys treating paid).mono fun r q h => ?_
    cases r with
    | error e => exact h
    | ok outcome => exact ⟨trivial, fun stop _ => by simpa [Phase.asked] using h⟩

/-- The pass over expired locks ends with every record made, and with a job still to be claimed. -/
theorem releaseStuck_obeys {Q : Unit → Phase → Prop} (opening : p.stage = .opening)
    (paid : p.owed = []) (h : ∀ q : Phase, q.stage = .released → q.owed = [] → Q () q) :
    (w.releaseStuck : Program handler Unit).Obeys w.permits Q p := by
  simp only [releaseStuck, Program.obeys_bind, Program.obeys_request_now,
    Program.obeys_request_call (.releaseStuck _), Store.perform]
  intro now
  refine ⟨opening, fun s => ?_⟩
  have owed : (p.called (.releaseStuck now) (.ok (s.releaseStuck now).1)).owed =
      (s.releaseStuck now).1.exhausted := by
    simp [Phase.called, Call.buried?, Call.failed, paid]
  split
  next hempty =>
    refine h _ rfl ?_
    rw [owed]
    simp_all [StuckRelease.isEmpty]
  next =>
    simp only [Program.obeys_bind, Program.obeys_reportReleased]
    rw [← owed]
    exact buryAll_obeys rfl h

end Worker

/-- An iteration may end so: every record is made, and if the end of its attempt was refused then
the outcome is that the lock was lost. -/
def Iteration (r : Except QueueError (Option Outcome)) (p : Phase) : Prop :=
  p.owed = [] ∧ ∀ id, p.stage = .lost id → r = .ok (some (.lockLost id))

/-- **The conduct of a worker**: an iteration takes expired locks back and makes the records of the
jobs that failed by that, claims, and ends the attempt at what it claimed. -/
theorem Worker.runOnce_obeys (opening : p.stage = .opening) (paid : p.owed = []) :
    w.runOnce.run.Obeys w.permits Iteration p := by
  simp only [runOnce, claim, QueueProgram.obeys_run_bind, QueueProgram.obeys_run_within,
    QueueProgram.obeys_run_lift, QueueProgram.obeys_run_now,
    QueueProgram.obeys_run_call (.claimNext _ _), Store.perform]
  refine releaseStuck_obeys opening paid fun q released paid now => ?_
  refine ⟨⟨rfl, released⟩, fun s => ?_⟩
  have owed (answer : Option Job) : (q.called (.claimNext w.id now) (.ok answer)).owed = [] := by
    simp [Phase.called, Call.buried?, Call.failed, paid]
  cases (s.claimNext w.id now).1 with
  | none =>
    simp only [QueueProgram.obeys_run_bind, QueueProgram.obeys_run_tell,
      QueueProgram.obeys_run_pure]
    exact ⟨owed none, fun id lost => by cases lost⟩
  | some job =>
    simp only [QueueProgram.obeys_run_map]
    have treating : (q.called (.claimNext w.id now) (.ok (some job))).stage = .treating job := rfl
    refine (process_obeys treating (owed _)).mono fun r q h => ⟨h.1, fun id lost => ?_⟩
    rw [h.2 id lost]
    rfl

/-- The renewals of a lock only renew it. -/
theorem Worker.renewalTurn_obeys {id : Uuid} {owner : String} {Q : Turn → Phase → Prop}
    (h : ∀ turn q, Q turn q) :
    (renewalTurn id owner : Program handler Turn).Obeys renewalPermits Q p := by
  simp only [renewalTurn, Program.obeys_bind, Program.obeys_request .awaitRenewal]
  refine ⟨trivial, fun stop _ => ?_⟩
  cases stop with
  | true => exact h _ _
  | false =>
    simp only [Bool.false_eq_true, ↓reduceIte, Program.obeys_bind, Program.obeys_request_now,
      Program.obeys_request_call (.heartbeat _ _ _)]
    refine fun now => ⟨trivial, fun s => ?_⟩
    split
    · simpa using h _ _
    · simpa using h _ _
    · simpa using h _ _

/-! ## Clients

The rules bind no end of a client's program, so that these lemmas say of every end that it will do.
-/

namespace Client

/-- A submission that passed its check makes a new job. -/
theorem stamp_isNew {c : Client} {r : NewJob} {a : Admitted} (admitted : c.check r = .ok a)
    (id : Uuid) (now : Instant) : (c.stamp a id now).IsNew := by
  have positive : 0 < a.maxAttempts := by
    unfold check at admitted
    simp only at admitted
    split at admitted
    · cases admitted
    · split at admitted
      · cases admitted
      · split at admitted
        · cases admitted
        next hzero =>
          cases admitted
          exact UInt32.pos_iff_ne_zero.mpr hzero
  exact ⟨rfl, rfl, positive⟩

theorem insert_obeys {Q : Except QueueError Job → Phase → Prop} (drawn : p.drawn = some job.id)
    (isNew : job.IsNew) (h : ∀ r q, Q r q) :
    (insert job : QueueProgram handler Job).run.Obeys clientPermits Q p := by
  simp only [insert, QueueProgram.obeys_run_bind, QueueProgram.obeys_run_attempt (.insert job)]
  refine ⟨⟨drawn, isNew⟩, fun s => ?_⟩
  split
  · exact h _ _
  · split
    · simpa using h _ _
    · exact h _ _

/-- Only a new job is submitted, under an identifier that was drawn for it. -/
theorem enqueue_obeys {c : Client} {r : NewJob} {Q : Except QueueError Job → Phase → Prop}
    (h : ∀ r q, Q r q) :
    (c.enqueue r : QueueProgram handler Job).run.Obeys clientPermits Q p := by
  simp only [enqueue, QueueProgram.obeys_run_bind, QueueProgram.obeys_run_within,
    QueueProgram.obeys_run_settled, QueueProgram.obeys_run_now, QueueProgram.obeys_run_freshId]
  cases hcheck : c.check r with
  | error e => exact h _ _
  | ok admitted =>
    refine fun now id => insert_obeys rfl (stamp_isNew hcheck id now) fun r q => ?_
    cases r with
    | error e => exact h _ _
    | ok job => simpa using h _ _

theorem getJob_obeys {id : Uuid} {Q : Except QueueError Job → Phase → Prop} (h : ∀ r q, Q r q) :
    (getJob id : QueueProgram handler Job).run.Obeys clientPermits Q p := by
  simp only [getJob, QueueProgram.obeys_run_bind, QueueProgram.obeys_run_call (.find id),
    Store.perform]
  refine ⟨trivial, fun s => ?_⟩
  split <;> exact h _ _

theorem listJobs_obeys {filter : JobFilter} {Q : Except QueueError (List Job) → Phase → Prop}
    (h : ∀ r q, Q r q) :
    (listJobs filter : QueueProgram handler (List Job)).run.Obeys clientPermits Q p := by
  rw [listJobs, QueueProgram.obeys_run_call (.list filter)]
  exact ⟨trivial, fun s => h _ _⟩

theorem snapshot_obeys {c : Client} {Q : Except QueueError Snapshot → Phase → Prop}
    (h : ∀ r q, Q r q) :
    (c.snapshot : QueueProgram handler Snapshot).run.Obeys clientPermits Q p := by
  simp only [snapshot, QueueProgram.obeys_run_bind, QueueProgram.obeys_run_now,
    QueueProgram.obeys_run_call (.snapshot _), Store.perform]
  refine fun now => ⟨trivial, fun s => ?_⟩
  split
  · simp only [QueueProgram.obeys_run_bind, QueueProgram.obeys_run_call .countDeadLetters]
    refine ⟨trivial, fun s => ?_⟩
    split <;> exact h _ _
  · exact h _ _

end Client

namespace DeadLetterQueue

theorem get_obeys {id : Uuid} {Q : Except QueueError DeadLetter → Phase → Prop}
    (h : ∀ r q, Q r q) :
    (get id : QueueProgram handler DeadLetter).run.Obeys clientPermits Q p := by
  simp only [get, QueueProgram.obeys_run_bind, QueueProgram.obeys_run_call (.findDeadLetter id),
    Store.perform]
  refine ⟨trivial, fun s => ?_⟩
  split <;> exact h _ _

theorem list_obeys {filter : DeadLetterFilter}
    {Q : Except QueueError (List DeadLetter) → Phase → Prop} (h : ∀ r q, Q r q) :
    (list filter : QueueProgram handler (List DeadLetter)).run.Obeys clientPermits Q p := by
  rw [list, QueueProgram.obeys_run_call (.listDeadLetters filter)]
  exact ⟨trivial, fun s => h _ _⟩

/-- A record that is submitted again becomes a new job. -/
theorem retry_obeys {q : DeadLetterQueue} {id : Uuid}
    {Q : Except QueueError Resubmission → Phase → Prop} (h : ∀ r q, Q r q) :
    (q.retry id : QueueProgram handler Resubmission).run.Obeys clientPermits Q p := by
  simp only [retry, QueueProgram.obeys_run_bind, QueueProgram.obeys_run_within]
  refine get_obeys fun r p => ?_
  cases r with
  | error e => exact h _ _
  | ok record =>
    refine Client.enqueue_obeys fun r p => ?_
    cases r with
    | error e => exact h _ _
    | ok job =>
      simp only [QueueProgram.obeys_run_now,
        QueueProgram.obeys_run_call (.incrementRetryCount id _), Store.perform]
      refine fun now => ⟨trivial, fun s => ?_⟩
      split
      · exact h _ _
      · simpa using h _ _

theorem delete_obeys {id : Uuid} {Q : Except QueueError Unit → Phase → Prop} (h : ∀ r q, Q r q) :
    (delete id : QueueProgram handler Unit).run.Obeys clientPermits Q p := by
  simp only [delete, QueueProgram.obeys_run_bind, QueueProgram.obeys_run_within,
    QueueProgram.obeys_run_call (.deleteDeadLetter id), Store.perform]
  refine ⟨trivial, fun s => ?_⟩
  split
  · simpa using h _ _
  · exact h _ _

theorem prune_obeys {days : UInt32} {Q : Except QueueError UInt64 → Phase → Prop}
    (h : ∀ r q, Q r q) :
    (prune days : QueueProgram handler UInt64).run.Obeys clientPermits Q p := by
  simp only [prune, QueueProgram.obeys_run_bind, QueueProgram.obeys_run_now]
  intro now
  split
  · simpa using h _ _
  · simp only [QueueProgram.obeys_run_bind, QueueProgram.obeys_run_within,
      QueueProgram.obeys_run_call (.deleteDeadLettersBefore _), Store.perform]
    refine ⟨trivial, fun s => ?_⟩
    simpa using h _ _

theorem count_obeys {Q : Except QueueError UInt64 → Phase → Prop} (h : ∀ r q, Q r q) :
    (count : QueueProgram handler UInt64).run.Obeys clientPermits Q p := by
  rw [count, QueueProgram.obeys_run_call .countDeadLetters]
  exact ⟨trivial, fun s => h _ _⟩

end DeadLetterQueue

end JobQueue
