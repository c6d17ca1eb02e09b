import JobQueue.Proofs.Interleaving.System
import JobQueue.Proofs.Metrics.Account

/-!
# What is done is counted

Every program of the queue settles its account: what a worker or a client did to the jobs it counts
itself, once and under the right type, and before it ends.

* `Client.enqueue_settles` and `DeadLetterQueue.retry_settles`: an accepted submission is counted.
* `Worker.finish_settles`: the end of an attempt is due as what it comes out as.
* `Worker.releaseStuck_settles`: a pass over expired locks is counted, with the jobs that failed in
  it.
* `Worker.runOnce_settles`: and so is a whole iteration.
* `Errand.settles`: and all that a client can have to do.
* `renewalOf_isAside`: renewing a lock leaves nothing to be counted.
-/

namespace JobQueue

variable {handler : Type} {a : Account} {job : Job}

open Program

/-! ## Submissions -/

namespace Client

/-- A job that is put in is due to be counted. -/
theorem insert_settles (queued : job.status = .queued) (paid : a.dues = []) :
    (insert job : QueueProgram handler Job).run.Settles
      (fun r b => match r with
        | .ok stored => b.dues = [.enqueued stored.jobType]
        | .error _ => b.dues = []) a := by
  refine QueueProgram.settles_bind.mpr (QueueProgram.settles_lift.mpr ?_)
  have refused (e : QueueError) {b : Account} (paid : b.dues = []) :
      (do
        if e.isConflict then
          QueueProgram.tell .warn "rejected duplicate job" [("error", .text e.message)]
        throw e : QueueProgram handler Job).run.Settles
        (fun r b => match r with
          | .ok stored => b.dues = [.enqueued stored.jobType]
          | .error _ => b.dues = []) b := by
    split
    · exact QueueProgram.settles_lift_bind (Program.isAside_tell _ _ _) fun _ => paid
    · exact paid
  refine settles_call queued (fun e => refused e paid) fun s fits => ?_
  have dues : (a.called s (.insert job)).dues = match (s.insert job).1 with
      | .ok job => [.enqueued job.jobType]
      | .error _ => [] := by
    rw [Account.called, paid, List.nil_append, Deed.made, Store.perform]
    cases (s.insert job).1 <;> rfl
  rw [Store.perform]
  revert dues
  cases (s.insert job).1 with
  | ok stored => exact fun dues => dues
  | error e => exact fun dues => refused e dues

/-- An accepted submission is counted. -/
theorem enqueue_settles (c : Client) (r : NewJob) (paid : a.dues = []) :
    (c.enqueue r : QueueProgram handler Job).run.Settles (fun _ b => b.dues = []) a := by
  refine QueueProgram.settles_within.mpr (QueueProgram.settles_bind.mpr ?_)
  cases c.check r with
  | error e => exact paid
  | ok admitted =>
    refine QueueProgram.settles_lift_bind isAside_now fun now => ?_
    refine QueueProgram.settles_lift_bind
      (isAside_request (fun _ => trivial) fun _ _ _ leads => leads) fun id => ?_
    refine QueueProgram.settles_bind.mpr ((insert_settles rfl paid).mono fun r b h => ?_)
    cases r with
    | error e => exact h
    | ok stored =>
      refine QueueProgram.settles_bind.mpr (QueueProgram.settles_lift.mpr ?_)
      exact (Program.isAside_tell _ _ _).settles_bind fun _ => settles_measure h rfl rfl

end Client

namespace DeadLetterQueue

theorem get_isAside (id : Uuid) : (get id : QueueProgram handler DeadLetter).run.IsAside := by
  refine QueueProgram.isAside_bind (QueueProgram.isAside_call rfl) fun record => ?_
  cases record with
  | none => exact QueueProgram.isAside_throw _
  | some record => exact QueueProgram.isAside_pure _

/-- So is the submission of a record. -/
theorem retry_settles (q : DeadLetterQueue) (id : Uuid) (paid : a.dues = []) :
    (q.retry id : QueueProgram handler Resubmission).run.Settles (fun _ b => b.dues = []) a := by
  refine QueueProgram.settles_within.mpr (QueueProgram.settles_bind.mpr ?_)
  refine get_isAside id _ a fun r => ?_
  cases r with
  | error e => exact paid
  | ok record =>
    refine QueueProgram.settles_bind.mpr
      ((q.client.enqueue_settles (resubmission record) paid).mono fun r b paid => ?_)
    cases r with
    | error e => exact paid
    | ok job =>
      refine QueueProgram.settles_lift_bind isAside_now fun now => ?_
      refine QueueProgram.settles_bind.mpr (Program.isAside_call rfl _ b fun r => ?_)
      cases r with
      | error e => exact paid
      | ok counted =>
        cases counted with
        | none => exact paid
        | some record =>
          exact QueueProgram.settles_lift_bind (Program.isAside_tell _ _ _) fun _ => paid

/-- Making the record of a failed job leaves accounts alone. -/
theorem moveJob_isAside (job : Job) :
    (moveJob job : QueueProgram handler DeadLetter).run.IsAside :=
  QueueProgram.isAside_bind QueueProgram.isAside_now fun _ =>
    QueueProgram.isAside_bind QueueProgram.isAside_freshId fun _ =>
      QueueProgram.isAside_bind (IsAside.within (QueueProgram.isAside_call rfl)) fun _ =>
        QueueProgram.isAside_bind (QueueProgram.isAside_tell _ _ _) fun _ =>
          QueueProgram.isAside_pure _

end DeadLetterQueue

/-! ## The end of an attempt -/

namespace Worker

variable {w : Worker handler}

/-- The end of an attempt at a job is due as what it came out as. -/
def Ends (job : Job) (r : Except QueueError Outcome) (b : Account) : Prop :=
  match r with
  | .ok outcome => b.dues = [.finalized job.jobType outcome.label]
  | .error _ => b.dues = []

/-- The call that ends an attempt is due as its outcome, or as a lock that was lost. -/
theorem settles_ending {c : Call} {outcome : String}
    {Q : Except QueueError c.Answer → Account → Prop} (treating : a.claimed = some job)
    (paid : a.dues = []) (ordered : (Effect.call c : Effect handler).InOrder a)
    (answered : ∀ s : Store, ∃ x, (s.perform c).1 = .ok x ∧ (Deed.made s c).dues =
      [.finalized (s.typeOf job.id) (if c.accepts (.ok x) then outcome else "lock_lost")])
    (fails : ∀ e, Q (.error e) a)
    (made : ∀ (x : c.Answer) (b : Account), b.dues =
      [.finalized job.jobType (if c.accepts (.ok x) then outcome else "lock_lost")] → Q (.ok x) b) :
    (request (.call c) : Program handler _).Settles Q a := by
  refine settles_call ordered fails fun s fits => ?_
  obtain ⟨x, answer, dues⟩ := answered s
  rw [answer]
  refine made x _ ?_
  rw [Account.called, paid, List.nil_append, dues, fits.typeOf_eq treating]

theorem lockLost_settles (due : a.dues = [.finalized job.jobType "lock_lost"]) :
    (w.lockLost job).run.Settles (Ends job) a :=
  QueueProgram.settles_lift_bind (Program.isAside_tell _ _ _) fun _ => due

theorem succeed_settles (result : Json) (treating : a.claimed = some job) (paid : a.dues = []) :
    (w.succeed job result).run.Settles (Ends job) a := by
  refine QueueProgram.settles_lift_bind isAside_now fun now => ?_
  refine QueueProgram.settles_bind.mpr (settles_ending treating paid trivial
    (fun s => ⟨_, rfl, rfl⟩) (fun e => paid) fun accepted b due => ?_)
  cases accepted with
  | true => exact due
  | false => exact lockLost_settles due

/-- Making the record of a failed job leaves the account alone, and does not fail. -/
theorem bury_settles {Q : Except QueueError (Option Uuid) → Account → Prop} (job failed : Job)
    (h : ∀ record, Q (.ok record) a) :
    (bury job failed : QueueProgram handler (Option Uuid)).run.Settles Q a := by
  refine QueueProgram.settles_lift_bind (DeadLetterQueue.moveJob_isAside failed) fun r => ?_
  cases r with
  | ok record => exact h _
  | error e => exact QueueProgram.settles_lift_bind (Program.isAside_tell _ _ _) fun _ => h none

theorem fail_settles (error : Failure) (treating : a.claimed = some job) (paid : a.dues = []) :
    (w.fail job error).run.Settles (Ends job) a := by
  refine QueueProgram.settles_lift_bind isAside_now fun now => ?_
  refine QueueProgram.settles_bind.mpr (settles_ending treating paid trivial
    (fun s => ⟨_, rfl, rfl⟩) (fun e => paid) fun failed b due => ?_)
  cases failed with
  | none => exact lockLost_settles due
  | some failed =>
    exact QueueProgram.settles_bind.mpr (bury_settles job failed fun record => due)

theorem handleFailure_settles (error : Failure) (treating : a.claimed = some job)
    (paid : a.dues = []) : (w.handleFailure job error).run.Settles (Ends job) a := by
  unfold handleFailure
  cases decideAfterFailure job.attempts job.maxAttempts w.settings.backoff with
  | deadLetter => exact fail_settles error treating paid
  | retry delayMs =>
    refine QueueProgram.settles_lift_bind isAside_now fun now => ?_
    refine QueueProgram.settles_bind.mpr (settles_ending treating paid trivial
      (fun s => ⟨_, rfl, rfl⟩) (fun e => paid) fun accepted b due => ?_)
    cases accepted with
    | true => exact QueueProgram.settles_lift_bind (Program.isAside_tell _ _ _) fun _ => due
    | false => exact lockLost_settles due

/-- The end of an attempt is due as what it comes out as. -/
theorem finish_settles (result : HandlerResult) (treating : a.claimed = some job)
    (paid : a.dues = []) : (w.finish job result).run.Settles (Ends job) a := by
  rcases result with (e | message) | value
  · exact QueueProgram.settles_lift_bind (Program.isAside_tell _ _ _) fun _ =>
      handleFailure_settles _ treating paid
  · exact QueueProgram.settles_lift_bind (Program.isAside_tell _ _ _) fun _ =>
      handleFailure_settles _ treating paid
  · exact succeed_settles value treating paid

/-! ## An iteration -/

/-- Running the handler leaves accounts alone. -/
theorem dispatch_isAside (h : handler) (job : Job) : (w.dispatch h job).IsAside := by
  refine IsAside.bind (isAside_request (fun _ => trivial) fun _ _ _ leads => leads) fun _ => ?_
  refine IsAside.bind
    (IsAside.within (isAside_request (fun _ => trivial) fun _ _ _ leads => leads)) fun result => ?_
  refine IsAside.bind (isAside_request (fun _ => trivial) fun _ _ _ leads => leads) fun why => ?_
  cases why with
  | none => exact isAside_done _
  | some why => exact IsAside.bind (Program.isAside_tell _ _ _) fun _ => isAside_done _

theorem reportFinalized_settles {outcome : String} {rest : List Measurement}
    (due : a.dues = .finalized job.jobType outcome :: rest) {Q : Unit → Account → Prop}
    (h : Q () { a with dues := rest }) :
    (reportFinalized job outcome : Program handler Unit).Settles Q a :=
  (Program.isAside_tell _ _ _).settles_bind fun _ => settles_measure due rfl h

/-- A claimed job is counted as what its attempt comes out as. -/
theorem process_settles (treating : a.claimed = some job) (paid : a.dues = []) :
    (w.process job).run.Settles (fun _ b => b.dues = []) a := by
  have counted {outcome : Outcome} {b : Account}
      (due : b.dues = [.finalized job.jobType outcome.label]) :
      (do
        QueueProgram.lift (Program.reportFinalized job outcome.label)
        pure outcome : QueueProgram handler Outcome).run.Settles (fun _ b => b.dues = []) b :=
    QueueProgram.settles_bind.mpr (QueueProgram.settles_lift.mpr (reportFinalized_settles due rfl))
  unfold process
  cases w.registry.find? job.jobType with
  | none =>
    refine QueueProgram.settles_lift_bind (Program.isAside_tell _ _ _) fun _ => ?_
    refine QueueProgram.settles_bind.mpr ((fail_settles _ treating paid).mono fun r b ends => ?_)
    cases r with
    | error e => exact ends
    | ok outcome => exact counted ends
  | some h =>
    have stopwatch : (request .stopwatch : Program handler _).IsAside :=
      isAside_request (fun _ => trivial) fun _ _ _ leads => leads
    refine QueueProgram.settles_lift_bind stopwatch fun start => ?_
    refine QueueProgram.settles_lift_bind (dispatch_isAside h job) fun result => ?_
    refine QueueProgram.settles_bind.mpr (QueueProgram.settles_within.mpr
      ((finish_settles result treating paid).mono fun r b ends => ?_))
    cases r with
    | error e => exact ends
    | ok outcome =>
      refine QueueProgram.settles_lift_bind stopwatch fun stop => ?_
      refine QueueProgram.settles_lift_bind (IsAside.bind (Program.isAside_tell _ _ _) fun _ =>
        isAside_measure rfl) fun _ => ?_
      exact counted ends

/-- The jobs that failed by a pass are counted one by one, whether or not their records can be made.
-/
theorem buryAll_settles {Q : Unit → Account → Prop} (jobs : List Job)
    (due : a.dues = jobs.map fun job => .finalized job.jobType "failed")
    (h : ∀ b : Account, b.dues = [] → Q () b) :
    (buryAll jobs : Program handler Unit).Settles Q a := by
  induction jobs generalizing a with
  | nil => exact h a due
  | cons job rest ih =>
    refine Program.settles_bind.mpr (Program.settles_bind.mpr (reportFinalized_settles due ?_))
    refine (DeadLetterQueue.moveJob_isAside job).settles_bind fun r => ?_
    cases r with
    | ok record => exact ih rfl
    | error e => exact (Program.isAside_tell _ _ _) _ _ fun _ => ih rfl

/-- A pass over expired locks is counted, with the jobs that failed in it. -/
theorem releaseStuck_settles {Q : Unit → Account → Prop} (paid : a.dues = [])
    (h : ∀ b : Account, b.dues = [] → Q () b) : w.releaseStuck.Settles Q a := by
  refine isAside_now.settles_bind fun now => ?_
  refine Program.settles_bind.mpr (settles_call trivial (fun e => ?_) fun s fits => ?_)
  · exact (Program.isAside_tell _ _ _) _ _ fun _ => h a paid
  · have dues : (a.called s (.releaseStuck now)).dues = (s.releaseStuck now).1.dues := by
      rw [Account.called, paid]
      rfl
    have answer : (s.perform (.releaseStuck now)).1 = .ok (s.releaseStuck now).1 := rfl
    rw [answer]
    dsimp only
    rw [StuckRelease.dues] at dues
    split at dues
    next nothing =>
      rw [if_pos nothing]
      exact h _ dues
    next something =>
      rw [if_neg something]
      refine Program.settles_bind.mpr ((Program.isAside_tell _ _ _).settles_bind fun _ =>
        settles_measure dues rfl ?_)
      exact buryAll_settles _ rfl h

/-- **What an iteration does is counted.** -/
theorem runOnce_settles (paid : a.dues = []) :
    w.runOnce.run.Settles (fun _ b => b.dues = []) a := by
  refine QueueProgram.settles_bind.mpr (QueueProgram.settles_within.mpr ?_)
  refine QueueProgram.settles_bind.mpr (QueueProgram.settles_lift.mpr
    (releaseStuck_settles paid fun b paid => ?_))
  refine QueueProgram.settles_lift_bind isAside_now fun now => ?_
  refine settles_call trivial (fun e => paid) fun s fits => ?_
  have dues : (b.called s (.claimNext w.id now)).dues = [] := by
    rw [Account.called, paid]
    rfl
  have claimed : (b.called s (.claimNext w.id now)).claimed =
      (s.claimNext w.id now).1.or b.claimed := rfl
  have answer : (s.perform (.claimNext w.id now)).1 = .ok (s.claimNext w.id now).1 := rfl
  rw [answer]
  cases job : (s.claimNext w.id now).1 with
  | none => exact QueueProgram.settles_lift_bind (Program.isAside_tell _ _ _) fun _ => dues
  | some job =>
    exact QueueProgram.settles_map.mpr (process_settles (claimed.trans (by rw [job]; rfl)) dues)

end Worker

/-! ## All that actors do -/

/-- Renewing a lock leaves accounts alone. -/
theorem renewalOf_isAside (job : Uuid) (owner : String) :
    (renewalOf job owner : Program handler Ending).IsAside := by
  have turn : (Worker.renewalTurn job owner : Program handler Turn).IsAside := by
    refine IsAside.bind (isAside_request (fun _ => trivial) fun _ _ _ leads => leads) fun stop => ?_
    cases stop with
    | true => exact isAside_done _
    | false =>
      refine IsAside.bind isAside_now fun now => IsAside.bind (isAside_call rfl) fun answer => ?_
      rcases answer with e | renewed | renewed
      · exact IsAside.bind (Program.isAside_tell _ _ _) fun _ => isAside_done _
      · exact IsAside.bind (Program.isAside_tell _ _ _) fun _ => isAside_done _
      · exact IsAside.bind (Program.isAside_tell _ _ _) fun _ => isAside_done _
  exact fun Q a all => settles_map.mpr (turn _ a fun _ => all _)

/-- Looking at the jobs leaves accounts alone. -/
theorem Client.snapshot_isAside (c : Client) :
    (c.snapshot : QueueProgram handler Snapshot).run.IsAside := by
  refine QueueProgram.isAside_bind QueueProgram.isAside_now fun now => ?_
  refine QueueProgram.isAside_bind (QueueProgram.isAside_call rfl) fun snapshot => ?_
  split
  · exact QueueProgram.isAside_bind (QueueProgram.isAside_call rfl) fun _ =>
      QueueProgram.isAside_pure _
  · exact QueueProgram.isAside_pure _

theorem Client.getJob_isAside (id : Uuid) :
    (getJob id : QueueProgram handler Job).run.IsAside := by
  refine QueueProgram.isAside_bind (QueueProgram.isAside_call rfl) fun job => ?_
  cases job with
  | none => exact QueueProgram.isAside_throw _
  | some job => exact QueueProgram.isAside_pure _

theorem DeadLetterQueue.delete_isAside (id : Uuid) :
    (delete id : QueueProgram handler Unit).run.IsAside := by
  refine QueueProgram.isAside_bind (IsAside.within (QueueProgram.isAside_call rfl))
    fun deleted => ?_
  split
  · exact QueueProgram.isAside_tell _ _ _
  · exact QueueProgram.isAside_throw _

/-- What is pruned is counted aside. -/
theorem DeadLetterQueue.prune_isAside (days : UInt32) :
    (prune days : QueueProgram handler UInt64).run.IsAside := by
  refine QueueProgram.isAside_bind QueueProgram.isAside_now fun now => ?_
  split
  · exact QueueProgram.isAside_bind (QueueProgram.isAside_tell _ _ _) fun _ =>
      QueueProgram.isAside_pure _
  · refine QueueProgram.isAside_bind (IsAside.within (QueueProgram.isAside_call rfl))
      fun removed => ?_
    refine QueueProgram.isAside_bind (QueueProgram.isAside_lift ?_) fun _ =>
      QueueProgram.isAside_pure _
    unfold reportPruned
    split
    · exact IsAside.bind (Program.isAside_tell _ _ _) fun _ => isAside_measure rfl
    · exact IsAside.bind (Program.isAside_tell _ _ _) fun _ => isAside_measure rfl

/-- Whatever a client has to do, it settles its account. -/
theorem Errand.settles (errand : Errand) (paid : a.dues = []) :
    (errand.program : Program handler Ending).Settles (fun _ b => b.dues = []) a := by
  cases errand with
  | enqueue c r => exact settles_map.mpr (c.enqueue_settles r paid)
  | retry q id => exact settles_map.mpr (q.retry_settles id paid)
  | getJob id => exact settles_map.mpr (Client.getJob_isAside id _ a fun _ => paid)
  | listJobs filter =>
    exact settles_map.mpr ((isAside_call rfl : (Client.listJobs filter).run.IsAside) _ a
      fun _ => paid)
  | snapshot c => exact settles_map.mpr (c.snapshot_isAside _ a fun _ => paid)
  | getRecord id => exact settles_map.mpr (DeadLetterQueue.get_isAside id _ a fun _ => paid)
  | listRecords filter =>
    exact settles_map.mpr ((isAside_call rfl : (DeadLetterQueue.list filter).run.IsAside) _ a
      fun _ => paid)
  | deleteRecord id => exact settles_map.mpr (DeadLetterQueue.delete_isAside id _ a fun _ => paid)
  | prune days => exact settles_map.mpr (DeadLetterQueue.prune_isAside days _ a fun _ => paid)
  | countRecords =>
    exact settles_map.mpr ((isAside_call rfl : DeadLetterQueue.count.run.IsAside) _ a
      fun _ => paid)

end JobQueue
