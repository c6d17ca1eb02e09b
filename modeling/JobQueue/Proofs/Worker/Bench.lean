import JobQueue.Proofs.Interleaving.Custody
import JobQueue.Proofs.Program.Alone
import JobQueue.Proofs.Store.Run

/-!
# A worker that works alone

One worker has a store for itself. The only calls that are made beside its own are the renewals of
the lock that it holds, any number of them and with any times, before each effect. All else is given
ahead: what the surroundings answer at each effect, and how each run of a handler ends.

* `Bench` is what there is at some time: the store, the lock that is renewed, and the jobs that were
  handed to handlers.
* `Program.atBench` runs a program to its end.
* `Program.atBench_bind_of` and `QueueProgram.atBench_bind_ok`: the second of two programs begins at
  the bench that the first one leaves, and of those that may fail only if that one did not.
-/

namespace JobQueue

variable {handler α β : Type}

/-- What is given ahead. -/
structure Scenery where
  /-- What the surroundings answer at each effect, except how a handler ends. -/
  around : Nat → Surroundings
  /-- When the lock that is held is renewed before each effect. -/
  renewals : Nat → List Instant
  /-- How the handler ends each time. -/
  results : Nat → HandlerResult

/-- A store with a worker at it. -/
structure Bench where
  store : Store
  /-- The lock that is renewed: of which job, and of which owner. -/
  renewing : Option (Uuid × String)
  /-- The jobs that were handed to handlers, in this order. -/
  dispatched : List Job
  /-- How many effects were answered. -/
  passed : Nat

namespace Bench

/-- A worker finds a store. -/
def opening (s : Store) : Bench := ⟨s, none, [], 0⟩

/-- The time that the calendar clock shows. -/
def clock (v : Scenery) (b : Bench) : Instant := (v.around b.passed).time

/-- The surroundings of the next effect. -/
def surroundings (v : Scenery) (b : Bench) : Surroundings :=
  { v.around b.passed with result := v.results b.dispatched.length }

/-- The store after the renewals that come before the next effect. -/
def renewed (v : Scenery) (b : Bench) : Store :=
  match b.renewing with
  | none => b.store
  | some (job, owner) => b.store.after ((v.renewals b.passed).map (.heartbeat job owner))

/-- The bench after an effect. -/
def afterEffect (v : Scenery) (b : Bench) (e : Effect handler) : Bench where
  store := e.storeAfter (b.renewed v)
  renewing :=
    match e with
    | .startRenewal job owner => some (job, owner)
    | .stopRenewal => none
    | _ => b.renewing
  dispatched :=
    match e with
    | .dispatch _ job => b.dispatched ++ [job]
    | _ => b.dispatched
  passed := b.passed + 1

end Bench

/-! ## Running a program -/

namespace Program

variable (v : Scenery)

/-- Runs a program to its end at a bench. It gives what the program ends with, and the bench
then. -/
def atBench : Program handler α → Bench → α × Bench
  | .done a, b => (a, b)
  | .ask e next, b =>
    (next ((b.surroundings v).answer (b.renewed v) e)).atBench (b.afterEffect v e)

theorem atBench_bind (p : Program handler α) (f : α → Program handler β) (b : Bench) :
    (p >>= f).atBench v b = (f (p.atBench v b).1).atBench v (p.atBench v b).2 := by
  induction p generalizing b with
  | done a => rfl
  | ask e next ih => exact ih _ _

/-- Where a first part is known to end, the second one goes on from there. -/
theorem atBench_bind_of {p : Program handler α} {f : α → Program handler β} {b b' : Bench} {a : α}
    (first : p.atBench v b = (a, b')) : (p >>= f).atBench v b = (f a).atBench v b' := by
  rw [atBench_bind, first]

/-! What follows takes place while no lock is renewed. -/

variable (s : Store) (jobs : List Job) (n : Nat)

theorem atBench_now :
    (request (.now : Effect handler)).atBench v ⟨s, none, jobs, n⟩ =
      ((v.around n).time, ⟨s, none, jobs, n + 1⟩) := rfl

theorem atBench_stopwatch :
    (request (.stopwatch : Effect handler)).atBench v ⟨s, none, jobs, n⟩ =
      ((v.around n).nanoseconds, ⟨s, none, jobs, n + 1⟩) := rfl

theorem atBench_requestCall {c : Call} {answer : Except QueueError c.Answer} {t : Store}
    (performed : s.perform c = (answer, t)) :
    (request (.call c : Effect handler)).atBench v ⟨s, none, jobs, n⟩ =
      (answer, ⟨t, none, jobs, n + 1⟩) := by
  show ((s.perform c).1, (⟨(s.perform c).2, none, jobs, n + 1⟩ : Bench)) = _
  rw [performed]

theorem atBench_tell (level : Level) (message : String) (fields : Fields) :
    (tell level message fields : Program handler Unit).atBench v ⟨s, none, jobs, n⟩ =
      ((), ⟨s, none, jobs, n + 1⟩) := rfl

theorem atBench_reportFinalized (job : Job) (outcome : String) :
    (reportFinalized job outcome : Program handler Unit).atBench v ⟨s, none, jobs, n⟩ =
      ((), ⟨s, none, jobs, n + 2⟩) := rfl

theorem atBench_reportDuration (jobType outcome : String) (nanoseconds : Nat) :
    (reportDuration jobType outcome nanoseconds : Program handler Unit).atBench v
      ⟨s, none, jobs, n⟩ = ((), ⟨s, none, jobs, n + 2⟩) := rfl

/-- A span takes one turn before and one behind. -/
theorem atBench_within {span : Span} {p : Program handler α} {a : α} {t : Store} {jobs' : List Job}
    {m : Nat} (inside : p.atBench v ⟨s, none, jobs, n + 1⟩ = (a, ⟨t, none, jobs', m⟩)) :
    (within span p).atBench v ⟨s, none, jobs, n⟩ = (a, ⟨t, none, jobs', m + 1⟩) := by
  have entered : (request (.enter span) : Program handler Unit).atBench v ⟨s, none, jobs, n⟩ =
      ((), ⟨s, none, jobs, n + 1⟩) := rfl
  rw [within, atBench_bind_of v entered, atBench_bind_of v inside]
  rfl

end Program

namespace QueueProgram

open Program

variable (v : Scenery)

/-- Where a first part is known to end without an error, the second one goes on from there. -/
theorem atBench_bind_ok {p : QueueProgram handler α} {f : α → QueueProgram handler β} {b b' : Bench}
    {a : α} (first : p.run.atBench v b = (.ok a, b')) :
    (p >>= f).run.atBench v b = (f a).run.atBench v b' := by
  rw [ExceptT.run_bind, Program.atBench_bind_of v first]

theorem atBench_lift {p : Program handler α} {b b' : Bench} {a : α}
    (h : p.atBench v b = (a, b')) : (lift p).run.atBench v b = (.ok a, b') := by
  rw [lift, ExceptT.run_lift, map_eq_pure_bind, Program.atBench_bind_of v h]
  rfl

/-! What follows takes place while no lock is renewed. -/

variable (s : Store) (jobs : List Job) (n : Nat)

theorem atBench_now :
    (now : QueueProgram handler Instant).run.atBench v ⟨s, none, jobs, n⟩ =
      (.ok (v.around n).time, ⟨s, none, jobs, n + 1⟩) := rfl

theorem atBench_call {c : Call} {answer : Except QueueError c.Answer} {t : Store}
    (performed : s.perform c = (answer, t)) :
    (call c : QueueProgram handler c.Answer).run.atBench v ⟨s, none, jobs, n⟩ =
      (answer, ⟨t, none, jobs, n + 1⟩) := Program.atBench_requestCall v s jobs n performed

theorem atBench_tell (level : Level) (message : String) (fields : Fields) :
    (tell level message fields : QueueProgram handler Unit).run.atBench v ⟨s, none, jobs, n⟩ =
      (.ok (), ⟨s, none, jobs, n + 1⟩) := rfl

/-- A span takes one turn before and one behind. -/
theorem atBench_within {span : Span} {p : QueueProgram handler α} {a : Except QueueError α}
    {t : Store} {jobs' : List Job} {m : Nat}
    (inside : p.run.atBench v ⟨s, none, jobs, n + 1⟩ = (a, ⟨t, none, jobs', m⟩)) :
    (within span p).run.atBench v ⟨s, none, jobs, n⟩ = (a, ⟨t, none, jobs', m + 1⟩) :=
  Program.atBench_within v s jobs n inside

end QueueProgram

end JobQueue
