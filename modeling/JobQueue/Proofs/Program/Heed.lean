import JobQueue.Pool.Basic
import JobQueue.Proofs.Program.Asking

/-!
# Programs that heed the shutdown signal

A task of a pool looks at the shutdown signal again and again. What it does between two looks tells
how much it may still do once the signal is given: a look that finds the signal not given gives
**leave** for one claim, and the claim uses the leave up.

* `Program.IsPlain`: a program asks neither to claim, nor to look at the signal, nor to rest. An
  iteration is plain but for its claim: `Worker.releaseStuck_isPlain`, `Worker.process_isPlain`.
* `Program.Heeds`: a program claims only with leave, and rests only without.
* `Pool.Duty.turn_heeds`: so does every turn of a task.
-/

namespace JobQueue

variable {handler α β : Type}

/-! ## Plain effects -/

/-- Whether a call is a claim. -/
def Call.isClaim : Call → Bool
  | .claimNext _ _ => true
  | _ => false

/-- Whether an effect is neither a claim, nor a look at the shutdown signal, nor a rest. -/
def Effect.isPlain : Effect handler → Bool
  | .call c => !c.isClaim
  | .isShuttingDown | .rest _ => false
  | _ => true

/-- The program asks only for what is plain. -/
abbrev Program.IsPlain (p : Program handler α) : Prop := p.AsksOnly fun e => e.isPlain = true

namespace Program

theorem isPlain_request {e : Effect handler} (plain : e.isPlain = true) : (request e).IsPlain :=
  asksOnly_request plain

theorem isPlain_tell (level : Level) (message : String) (fields : Fields) :
    (tell level message fields : Program handler Unit).IsPlain := isPlain_request rfl

theorem isPlain_measure (m : Measurement) : (measure m : Program handler Unit).IsPlain :=
  isPlain_request rfl

theorem isPlain_reportFinalized (job : Job) (outcome : String) :
    (reportFinalized job outcome : Program handler Unit).IsPlain :=
  (isPlain_tell _ _ _).bind fun _ => isPlain_measure _

theorem isPlain_within {span : Span} {p : Program handler α} (h : p.IsPlain) :
    (within span p).IsPlain := h.within rfl rfl

end Program

namespace QueueProgram

open Program

/-- A plain program may stand before another one. -/
theorem isPlain_lift_bind {p : Program handler α} {f : α → QueueProgram handler β} (h : p.IsPlain)
    (h' : ∀ a, (f a).run.IsPlain) : (lift p >>= f).run.IsPlain := asksOnly_bind (asksOnly_lift h) h'

theorem isPlain_now_bind {f : Instant → QueueProgram handler β} (h : ∀ time, (f time).run.IsPlain) :
    (now >>= f).run.IsPlain := isPlain_lift_bind (isPlain_request rfl) h

theorem isPlain_tell_bind {level : Level} {message : String} {fields : Fields}
    {f : Unit → QueueProgram handler β} (h : (f ()).run.IsPlain) :
    (tell level message fields >>= f).run.IsPlain :=
  isPlain_lift_bind (isPlain_tell level message fields) fun _ => h

theorem isPlain_call_bind {c : Call} {f : c.Answer → QueueProgram handler β}
    (plain : c.isClaim = false) (h : ∀ answer, (f answer).run.IsPlain) :
    (call c >>= f).run.IsPlain := asksOnly_call_bind (by rw [Effect.isPlain, plain]; rfl) h

end QueueProgram

/-! ## An iteration but for its claim -/

open Program

theorem DeadLetterQueue.moveJob_isPlain (job : Job) :
    (moveJob job : QueueProgram handler DeadLetter).run.IsPlain := by
  refine QueueProgram.isPlain_now_bind fun now => ?_
  refine QueueProgram.isPlain_lift_bind (isPlain_request rfl) fun id => ?_
  refine QueueProgram.asksOnly_bind (isPlain_within (isPlain_request rfl)) fun record => ?_
  exact QueueProgram.isPlain_tell_bind (asksOnly_done _)

namespace Worker

variable (w : Worker handler) (job : Job)

theorem lockLost_isPlain : (w.lockLost job).run.IsPlain :=
  QueueProgram.isPlain_tell_bind (asksOnly_done _)

theorem succeed_isPlain (result : Json) : (w.succeed job result).run.IsPlain := by
  refine QueueProgram.isPlain_now_bind fun now => ?_
  refine QueueProgram.isPlain_call_bind rfl fun accepted => ?_
  cases accepted with
  | true => exact asksOnly_done _
  | false => exact w.lockLost_isPlain job

theorem bury_isPlain (failed : Job) :
    (bury job failed : QueueProgram handler (Option Uuid)).run.IsPlain := by
  refine QueueProgram.isPlain_lift_bind (DeadLetterQueue.moveJob_isPlain failed) fun r => ?_
  cases r with
  | ok record => exact asksOnly_done _
  | error e => exact QueueProgram.isPlain_tell_bind (asksOnly_done _)

theorem fail_isPlain (error : Failure) : (w.fail job error).run.IsPlain := by
  refine QueueProgram.isPlain_now_bind fun now => ?_
  refine QueueProgram.isPlain_call_bind rfl fun failed => ?_
  cases failed with
  | none => exact w.lockLost_isPlain job
  | some failed =>
    exact QueueProgram.asksOnly_bind (bury_isPlain job failed) fun _ => asksOnly_done _

theorem handleFailure_isPlain (error : Failure) : (w.handleFailure job error).run.IsPlain := by
  unfold handleFailure
  cases decideAfterFailure job.attempts job.maxAttempts w.settings.backoff with
  | deadLetter => exact w.fail_isPlain job error
  | retry delayMs =>
    refine QueueProgram.isPlain_now_bind fun now => ?_
    refine QueueProgram.isPlain_call_bind rfl fun accepted => ?_
    cases accepted with
    | true => exact QueueProgram.isPlain_tell_bind (asksOnly_done _)
    | false => exact w.lockLost_isPlain job

theorem finish_isPlain (result : HandlerResult) : (w.finish job result).run.IsPlain := by
  rcases result with (e | message) | value
  · exact QueueProgram.isPlain_tell_bind (w.handleFailure_isPlain job _)
  · exact QueueProgram.isPlain_tell_bind (w.handleFailure_isPlain job _)
  · exact w.succeed_isPlain job value

theorem dispatch_isPlain (f : handler) : (w.dispatch f job).IsPlain := by
  refine (isPlain_request rfl).bind fun _ => ?_
  refine (isPlain_within (isPlain_request rfl)).bind fun result => ?_
  refine (isPlain_request rfl).bind fun why => ?_
  cases why with
  | none => exact asksOnly_done _
  | some why => exact (isPlain_tell _ _ _).bind fun _ => asksOnly_done _

/-- Whatever becomes of a claimed job, the worker claims nothing else meanwhile. -/
theorem process_isPlain : (w.process job).run.IsPlain := by
  have reported (outcome : Outcome) :
      (do
        QueueProgram.lift (reportFinalized job outcome.label)
        pure outcome : QueueProgram handler Outcome).run.IsPlain :=
    QueueProgram.isPlain_lift_bind (isPlain_reportFinalized _ _) fun _ => asksOnly_done _
  unfold process
  cases w.registry.find? job.jobType with
  | none =>
    refine QueueProgram.isPlain_tell_bind ?_
    exact QueueProgram.asksOnly_bind (w.fail_isPlain job _) reported
  | some f =>
    refine QueueProgram.isPlain_lift_bind (isPlain_request rfl) fun start => ?_
    refine QueueProgram.isPlain_lift_bind (w.dispatch_isPlain job f) fun result => ?_
    have finished : (QueueProgram.within (.finalize job) (w.finish job result)).run.IsPlain :=
      isPlain_within (w.finish_isPlain job result)
    refine QueueProgram.asksOnly_bind finished fun outcome => ?_
    refine QueueProgram.isPlain_lift_bind (isPlain_request rfl) fun stop => ?_
    refine QueueProgram.isPlain_lift_bind ?_ fun _ => reported outcome
    exact (isPlain_tell _ _ _).bind fun _ => isPlain_measure _

theorem buryExhausted_isPlain : (buryExhausted job : Program handler Unit).IsPlain := by
  refine (isPlain_reportFinalized _ _).bind fun _ => ?_
  refine (DeadLetterQueue.moveJob_isPlain job).bind fun r => ?_
  cases r with
  | ok record => exact asksOnly_done _
  | error e => exact isPlain_tell _ _ _

theorem buryAll_isPlain (jobs : List Job) : (buryAll jobs : Program handler Unit).IsPlain := by
  induction jobs with
  | nil => exact asksOnly_done _
  | cons job rest ih => exact (buryExhausted_isPlain job).bind fun _ => ih

theorem releaseStuck_isPlain : w.releaseStuck.IsPlain := by
  refine (isPlain_request rfl).bind fun now => (isPlain_request rfl).bind fun r => ?_
  cases r with
  | error e => exact isPlain_tell _ _ _
  | ok release =>
    dsimp only
    split
    · exact asksOnly_done _
    · refine AsksOnly.bind ?_ fun _ => buryAll_isPlain _
      exact (isPlain_tell _ _ _).bind fun _ => isPlain_measure _

end Worker

theorem DeadLetterQueue.prune_isPlain (days : UInt32) :
    (prune days : QueueProgram handler UInt64).run.IsPlain := by
  refine QueueProgram.isPlain_now_bind fun now => ?_
  cases now.daysBefore? days.toNat with
  | none => exact QueueProgram.isPlain_tell_bind (asksOnly_done _)
  | some cutoff =>
    refine QueueProgram.asksOnly_bind (isPlain_within (isPlain_request rfl)) fun removed => ?_
    refine QueueProgram.isPlain_lift_bind ?_ fun _ => asksOnly_done _
    unfold reportPruned
    split <;> exact (isPlain_tell _ _ _).bind fun _ => isPlain_measure _

/-! ## Leave to claim -/

namespace Effect

/-- Whether there is leave to claim after an effect was answered. -/
def leaveAfter (leave : Bool) : (e : Effect handler) → e.Answer → Bool
  | .isShuttingDown, given => !given
  | .call c, _ => leave && !c.isClaim
  | _, _ => leave

/-- A claim needs leave, and there is none left when a rest begins. -/
def IsHeedful (leave : Bool) : Effect handler → Prop
  | .call c => c.isClaim = true → leave = true
  | .rest _ => leave = false
  | _ => True

variable {e : Effect handler}

theorem isHeedful_of_isPlain (plain : e.isPlain = true) (leave : Bool) : e.IsHeedful leave := by
  cases e with
  | call c =>
    intro claims
    rw [isPlain, claims] at plain
    cases plain
  | rest => cases plain
  | _ => trivial

theorem leaveAfter_of_isPlain (plain : e.isPlain = true) (leave : Bool) (answer : e.Answer) :
    e.leaveAfter leave answer = leave := by
  cases e with
  | call c => rw [leaveAfter, show (!c.isClaim) = true from plain, Bool.and_true]
  | isShuttingDown => cases plain
  | _ => rfl

end Effect

namespace Program

/-- The program claims only with leave and rests only without, whatever it is answered, and ends as
`Q` says of its end and the leave then. -/
def Heeds (Q : α → Bool → Prop) : Program handler α → Bool → Prop
  | .done a, leave => Q a leave
  | .ask e next, leave =>
    e.IsHeedful leave ∧ ∀ answer, (next answer).Heeds Q (e.leaveAfter leave answer)

/-- There is no leave at the end. -/
def Spent (_ : α) (leave : Bool) : Prop := leave = false

variable {Q : α → Bool → Prop} {R : β → Bool → Prop} {leave : Bool}

theorem Heeds.mono {p : Program handler α} {Q' : α → Bool → Prop} (h : p.Heeds Q leave)
    (weaker : ∀ a leave, Q a leave → Q' a leave) : p.Heeds Q' leave := by
  induction p generalizing leave with
  | done a => exact weaker a leave h
  | ask e next ih => exact ⟨h.1, fun answer => ih answer (h.2 answer)⟩

theorem heeds_bind {p : Program handler α} {f : α → Program handler β}
    (h : p.Heeds (fun a leave => (f a).Heeds R leave) leave) : (p >>= f).Heeds R leave := by
  induction p generalizing leave with
  | done a => exact h
  | ask e next ih => exact ⟨h.1, fun answer => ih answer (h.2 answer)⟩

/-- One effect before another program. -/
theorem heeds_request_bind {e : Effect handler} {f : e.Answer → Program handler β}
    (heedful : e.IsHeedful leave)
    (h : ∀ answer, (f answer).Heeds R (e.leaveAfter leave answer)) :
    (request e >>= f).Heeds R leave := ⟨heedful, h⟩

/-- A plain program leaves the leave alone. -/
theorem AsksOnly.heeds {p : Program handler α} (plain : p.IsPlain) (h : ∀ a, Q a leave) :
    p.Heeds Q leave := by
  induction p with
  | done a => exact h a
  | ask e next ih =>
    refine ⟨Effect.isHeedful_of_isPlain plain.1 leave, fun answer => ?_⟩
    rw [Effect.leaveAfter_of_isPlain plain.1]
    exact ih answer (plain.2 answer)

/-- A plain program may stand before any other one. -/
theorem AsksOnly.heeds_bind {p : Program handler α} {f : α → Program handler β} (plain : p.IsPlain)
    (h : ∀ a, (f a).Heeds R leave) : (p >>= f).Heeds R leave := Program.heeds_bind (plain.heeds h)

end Program

/-- **One claim for each look.** From where it has leave, an iteration of a worker claims at most
once, and it has none when it ends. -/
theorem Worker.runOnce_heeds (w : Worker handler) : w.runOnce.run.Heeds Spent true := by
  have entered : (request (.enter (.claim w.id)) : Program handler Unit).IsPlain :=
    isPlain_request rfl
  have left : (request .leave : Program handler Unit).IsPlain := isPlain_request rfl
  have claimed : w.claim.run.Heeds Spent true := by
    refine entered.heeds_bind fun _ => heeds_bind ?_
    rw [ExceptT.run_bind]
    -- the pass over expired locks cannot fail, and behind it the claim is made at once
    have passed : (QueueProgram.lift w.releaseStuck).run =
        w.releaseStuck >>= fun a => done (.ok a) := by
      rw [QueueProgram.lift, ExceptT.run_lift, map_eq_pure_bind]
      rfl
    rw [passed, bind_assoc]
    refine w.releaseStuck_isPlain.heeds_bind fun _ => ?_
    exact ⟨trivial, fun now => ⟨fun _ => rfl, fun answer => left.heeds_bind fun _ => rfl⟩⟩
  rw [runOnce, ExceptT.run_bind]
  refine heeds_bind (claimed.mono ?_)
  rintro (e | _ | job) leave rfl
  · rfl
  · exact (QueueProgram.isPlain_tell_bind (asksOnly_done _)).heeds fun _ => rfl
  · dsimp only
    rw [ExceptT.run_map, map_eq_pure_bind]
    exact (w.process_isPlain job).heeds_bind fun _ => rfl

/-- So does every turn of a worker. -/
theorem Worker.turn_heeds (w : Worker handler) (leave : Bool) : w.turn.Heeds Spent leave := by
  have idle : w.idle.Heeds Spent false := by
    refine heeds_request_bind rfl fun cut => ?_
    cases cut with
    | true => exact (isPlain_tell _ _ _).heeds_bind fun _ => rfl
    | false => rfl
  refine heeds_request_bind trivial fun given => ?_
  cases given with
  | true => exact (isPlain_tell _ _ _).heeds_bind fun _ => rfl
  | false =>
    simp only [Bool.false_eq_true, ↓reduceIte]
    refine heeds_bind (w.runOnce_heeds.mono ?_)
    rintro (e | _ | outcome) leave rfl
    · have told (level : Level) (message : String) (fields : Fields) :
          (tell level message fields >>= fun _ => w.idle).Heeds Spent false :=
        (isPlain_tell _ _ _).heeds_bind fun _ => idle
      dsimp only
      split <;> exact told _ _ _
    · exact idle
    · rfl

theorem Housekeeper.turn_heeds (h : Housekeeper) :
    (h.turn : Program handler Turn).Heeds Spent false := by
  refine heeds_request_bind rfl fun cut => ?_
  cases cut with
  | true => exact (isPlain_tell _ _ _).heeds_bind fun _ => rfl
  | false =>
    refine (DeadLetterQueue.prune_isPlain h.retentionDays).heeds_bind fun r => ?_
    cases r with
    | ok removed => rfl
    | error e => exact (isPlain_tell _ _ _).heeds_bind fun _ => rfl

namespace Pool.Duty

variable (d : Duty handler)

/-- Every turn of a task heeds the shutdown signal. -/
theorem turn_heeds : d.turn.Heeds Spent false := by
  cases d with
  | work w => exact w.turn_heeds false
  | keepHouse h => exact h.turn_heeds

theorem opening_isPlain : d.opening.IsPlain := by
  cases d with
  | work w => exact isPlain_tell _ _ _
  | keepHouse h => exact asksOnly_done _

end Pool.Duty

end JobQueue
