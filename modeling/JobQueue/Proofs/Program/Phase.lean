import JobQueue.Proofs.DeadLetter.Copies
import JobQueue.Proofs.Store.Change
import JobQueue.Worker.Basic

/-!
# The phases of a worker

A worker makes its calls in a fixed order: it takes expired locks back, makes the records of the
jobs that failed by that, claims, and ends the attempt at the job that it claimed. Where it stands
in this order can be told from its own calls and their answers, without looking into its program.

* `Phase` is where an actor stands: the stage of its iteration, the failed jobs whose records it has
  still to make, and the identifier that it drew and has not used.
* `Phase.called` and `Phase.drew` are how it moves on.
* `Worker.permits`, `renewalPermits` and `clientPermits` are the calls that each kind of actor may
  make in a phase. In particular a worker ends an attempt only at the job that it claimed last, it
  retries only a job that its claim left with attempts, and it makes records of owed jobs only.
-/

namespace JobQueue

/-! ## Stages -/

/-- How far an iteration got. -/
inductive Stage where
  /-- Expired locks are to be taken back first. -/
  | opening
  /-- Expired locks were taken back, and nothing was claimed yet. -/
  | released
  /-- A job was claimed, and is as it was then. -/
  | treating (job : Job)
  /-- There is nothing to end any more. -/
  | settled
  /-- The end of the attempt at a job was refused. -/
  | lost (job : Uuid)
  deriving DecidableEq

/-- Where an actor stands. -/
structure Phase where
  stage : Stage
  /-- The jobs that the actor failed and has still to make records of, the next one first. -/
  owed : List Job
  /-- The identifier that was drawn and not used yet. -/
  drawn : Option Uuid
  deriving DecidableEq

namespace Call

/-- Whether a call puts a document in under an identifier that was drawn for it. -/
def putsNew : Call → Bool
  | .insert _ | .insertDeadLetter _ => true
  | _ => false

/-- The record that a call makes. -/
def buried? : Call → Option DeadLetter
  | .insertDeadLetter record => some record
  | _ => none

end Call

/-- The stage after a call. -/
def Stage.called (stage : Stage) : (c : Call) → Except QueueError c.Answer → Stage
  | .releaseStuck _, _ => .released
  | .claimNext worker now, answer =>
    match Call.claimed? (.claimNext worker now) answer with
    | some job => .treating job
    | none => .settled
  | c, answer =>
    match c.ends? with
    | some (job, _) => if c.accepts answer then .settled else .lost job
    | none => stage

namespace Phase

/-- An actor that is at rest. -/
def idle : Phase := ⟨.opening, [], none⟩

/-- The phase after a call. A job that failed is owed a record, and a record pays the first job. -/
def called (p : Phase) (c : Call) (answer : Except QueueError c.Answer) : Phase where
  stage := p.stage.called c answer
  owed := if c.buried?.isSome then p.owed.tail else p.owed ++ c.failed answer
  drawn := if c.putsNew then none else p.drawn

/-- The phase after an identifier was drawn. -/
def drew (p : Phase) (id : Uuid) : Phase := { p with drawn := some id }

@[simp] theorem drawn_drew (p : Phase) (id : Uuid) : (p.drew id).drawn = some id := rfl

@[simp] theorem stage_called (p : Phase) (c : Call) (answer : Except QueueError c.Answer) :
    (p.called c answer).stage = p.stage.called c answer := rfl

end Phase

/-! ## Calls that end an attempt -/

section Ends

variable {c : Call} {answer : Except QueueError c.Answer} {p : Phase} {id : Uuid} {owner : String}

/-- The stage after the end of an attempt tells whether it was accepted. -/
theorem Stage.called_of_ends (stage : Stage) (ends : c.ends? = some (id, owner)) :
    stage.called c answer = if c.accepts answer then .settled else .lost id := by
  cases c <;> simp_all [Call.ends?, Stage.called]

/-- The end of an attempt makes no record; the job that it failed is owed one. -/
theorem Phase.owed_called_of_ends (ends : c.ends? = some (id, owner)) :
    (p.called c answer).owed = p.owed ++ c.failed answer := by
  cases c <;> simp_all [Call.ends?, Phase.called, Call.buried?]

/-- A refused end of an attempt failed no job. -/
theorem Call.failed_of_refused (ends : c.ends? = some (id, owner))
    (refused : c.accepts answer = false) : c.failed answer = [] := by
  cases c <;> rcases answer with _ | answer <;> simp_all [Call.ends?, Call.accepts, Call.failed]

end Ends

/-! ## What an actor may call -/

/-- A job as it is submitted: never claimed, not locked, and with an attempt to make. -/
structure Job.IsNew (job : Job) : Prop where
  queued : job.status = .queued
  unclaimed : job.attempts = 0
  claimable : 0 < job.maxAttempts

/-- The calls that a worker may make. -/
def Worker.permits {handler : Type} (w : Worker handler) (p : Phase) : Call → Prop
  | .releaseStuck _ => p.stage = .opening
  | .claimNext worker _ => worker = w.id ∧ p.stage = .released
  | .markSucceeded id worker _ _ => worker = w.id ∧ ∃ job, p.stage = .treating job ∧ job.id = id
  | .markRetry id worker _ _ _ =>
    worker = w.id ∧
      ∃ job, p.stage = .treating job ∧ job.id = id ∧ job.attempts < job.maxAttempts
  | .markFailed id worker _ _ =>
    worker = w.id ∧
      ∃ job, p.stage = .treating job ∧ job.id = id ∧
        (w.registry.find? job.jobType = none ∨ job.maxAttempts ≤ job.attempts)
  | .insertDeadLetter record =>
    (p.stage = .released ∨ p.stage = .settled) ∧ p.drawn = some record.id ∧
      ∃ job rest, p.owed = job :: rest ∧ record.IsOf job
  | _ => False

/-- The calls that the renewals of a lock may make. -/
def renewalPermits (_ : Phase) : Call → Prop
  | .heartbeat _ _ _ => True
  | _ => False

/-- The calls that the users of a queue may make: they submit new jobs, they look, and they keep the
dead-letter records. -/
def clientPermits (p : Phase) : Call → Prop
  | .insert job => p.drawn = some job.id ∧ job.IsNew
  | .find _ | .list _ | .snapshot _ | .findDeadLetter _ | .listDeadLetters _
  | .incrementRetryCount _ _ | .deleteDeadLetter _ | .deleteDeadLettersBefore _
  | .countDeadLetters => True
  | _ => False

namespace Worker

variable {handler : Type} {w : Worker handler} {p : Phase} {c : Call} {id : Uuid} {owner : String}

/-- A worker ends an attempt only at the job that it treats, and in its own name. -/
theorem treating_of_ends (permitted : w.permits p c) (ends : c.ends? = some (id, owner)) :
    owner = w.id ∧ ∃ job, p.stage = .treating job ∧ job.id = id := by
  cases c <;> simp only [Call.ends?, Option.some.injEq, Prod.mk.injEq, reduceCtorEq] at ends
  case markSucceeded =>
    obtain ⟨rfl, rfl⟩ := ends
    exact permitted
  case markRetry =>
    obtain ⟨rfl, rfl⟩ := ends
    obtain ⟨howner, job, treating, hid, -⟩ := permitted
    exact ⟨howner, job, treating, hid⟩
  case markFailed =>
    obtain ⟨rfl, rfl⟩ := ends
    obtain ⟨howner, job, treating, hid, -⟩ := permitted
    exact ⟨howner, job, treating, hid⟩

/-- A worker whose end of an attempt was refused makes no call any more. -/
theorem not_permits_of_lost (lost : p.stage = .lost id) : ¬ w.permits p c := by
  cases c <;> simp [permits, lost]

end Worker

end JobQueue
