import JobQueue.Worker.Turns
import Mathlib.Logic.Function.Basic

/-!
# Many workers and clients on one store

Any number of workers and clients share one store. Each of them runs its program; a step of the
system lets one of them go on by one effect, so that the calls of all of them interleave in every
order. Everything that a program asks for besides calls of the store is answered by surroundings
that are chosen anew for every step: the clocks may show anything and may go back, and a handler may
end in any way, at any time.

* `Actor` is who makes calls: the workers, the renewals that run beside them, and the clients.
* `Ledger` is what there is to see from outside: the store, the identifiers that were given out, and
  the history of all calls with the store that each of them found.
* `System.step` makes one move, and `System.run` a list of moves. A move that is not possible makes
  no system.
-/

namespace JobQueue

variable {handler ι κ : Type}

/-! ## Actors and events -/

/-- Who makes calls. -/
inductive Actor (ι κ : Type) where
  /-- A worker in its iterations. -/
  | worker (i : ι)
  /-- The renewals of the lock that this worker holds. -/
  | renewal (i : ι)
  /-- A user of the queue. -/
  | client (k : κ)
  deriving DecidableEq

/-- What a program of an actor ends with. -/
inductive Ending where
  /-- An iteration of a worker. -/
  | iteration (result : Except QueueError (Option Outcome))
  /-- A turn of the renewals of the lock of a job. -/
  | renewal (job : Uuid) (owner : String) (turn : Turn)
  /-- What a client had to do. -/
  | errand

/-- What an actor did. -/
inductive Occurrence (ι κ : Type) where
  /-- It made a call, which found this store. -/
  | called (actor : Actor ι κ) (c : Call) (before : Store)
  /-- It drew an identifier. -/
  | drew (actor : Actor ι κ) (id : Uuid)
  /-- Its program ended. -/
  | ended (actor : Actor ι κ) (ending : Ending)

/-- The store, the identifiers that were given out, and what happened so far. -/
structure Ledger (ι κ : Type) where
  store : Store
  issued : List Uuid
  history : List (Occurrence ι κ)

namespace Ledger

/-- The beginning. The identifiers in the store were given out before. -/
def opening (s : Store) : Ledger ι κ :=
  ⟨s, s.jobs.map Job.id ++ s.deadLetters.map DeadLetter.id, []⟩

/-- An actor makes a call. -/
def called (l : Ledger ι κ) (actor : Actor ι κ) (c : Call) : Ledger ι κ :=
  { l with
    store := (l.store.perform c).2
    history := l.history ++ [.called actor c l.store] }

/-- An actor draws an identifier. -/
def drew (l : Ledger ι κ) (actor : Actor ι κ) (id : Uuid) : Ledger ι κ :=
  { l with
    issued := id :: l.issued
    history := l.history ++ [.drew actor id] }

/-- The program of an actor ends. -/
def ended (l : Ledger ι κ) (actor : Actor ι κ) (ending : Ending) : Ledger ι κ :=
  { l with history := l.history ++ [.ended actor ending] }

section

variable (l : Ledger ι κ) (actor : Actor ι κ)

@[simp] theorem history_called (c : Call) :
    (l.called actor c).history = l.history ++ [.called actor c l.store] := rfl

@[simp] theorem history_drew (id : Uuid) :
    (l.drew actor id).history = l.history ++ [.drew actor id] := rfl

@[simp] theorem history_ended (ending : Ending) :
    (l.ended actor ending).history = l.history ++ [.ended actor ending] := rfl

end

end Ledger

/-! ## What actors do -/

/-- What a client may have to do. -/
inductive Errand where
  | enqueue (c : Client) (r : NewJob)
  | getJob (id : Uuid)
  | listJobs (filter : JobFilter)
  | snapshot (c : Client)
  | retry (q : DeadLetterQueue) (id : Uuid)
  | getRecord (id : Uuid)
  | listRecords (filter : DeadLetterFilter)
  | deleteRecord (id : Uuid)
  | prune (days : UInt32)
  | countRecords

/-- The program of an errand. -/
def Errand.program : Errand → Program handler Ending
  | .enqueue c r => (fun _ => .errand) <$> (c.enqueue r).run
  | .getJob id => (fun _ => .errand) <$> (Client.getJob id).run
  | .listJobs filter => (fun _ => .errand) <$> (Client.listJobs filter).run
  | .snapshot c => (fun _ => .errand) <$> c.snapshot.run
  | .retry q id => (fun _ => .errand) <$> (q.retry id).run
  | .getRecord id => (fun _ => .errand) <$> (DeadLetterQueue.get id).run
  | .listRecords filter => (fun _ => .errand) <$> (DeadLetterQueue.list filter).run
  | .deleteRecord id => (fun _ => .errand) <$> (DeadLetterQueue.delete id).run
  | .prune days => (fun _ => .errand) <$> (DeadLetterQueue.prune days).run
  | .countRecords => (fun _ => .errand) <$> DeadLetterQueue.count.run

/-- An iteration of a worker. -/
def Worker.iteration (w : Worker handler) : Program handler Ending := .iteration <$> w.runOnce.run

/-- A turn of the renewals of a lock. -/
def renewalOf (job : Uuid) (owner : String) : Program handler Ending :=
  .renewal job owner <$> Worker.renewalTurn job owner

/-- What follows the end of a program by itself: another turn of the renewals. -/
def Ending.next? : Ending → Option (Program handler Ending)
  | .renewal job owner .again => some (renewalOf job owner)
  | _ => none

/-! ## Surroundings -/

/-- What the surroundings answer in one step. -/
structure Surroundings where
  /-- The time on the calendar clock. -/
  time : Instant
  /-- The time on the clock that never goes back. -/
  nanoseconds : Nat
  /-- An identifier. -/
  id : Uuid
  /-- How the handler ends. -/
  result : HandlerResult
  /-- Whether the pool is shutting down, a rest was cut short, or renewing is to stop. -/
  isOver : Bool
  /-- Why the renewals ended badly. -/
  renewalError : Option String

/-- The answer to an effect. -/
def Surroundings.answer (o : Surroundings) (s : Store) : (e : Effect handler) → e.Answer
  | .call c => (s.perform c).1
  | .now => o.time
  | .stopwatch => o.nanoseconds
  | .freshId => o.id
  | .stopRenewal => o.renewalError
  | .dispatch _ _ => o.result
  | .isShuttingDown => o.isOver
  | .rest _ => o.isOver
  | .awaitRenewal => o.isOver
  | .tell _ => ()
  | .enter _ => ()
  | .leave => ()
  | .measure _ => ()
  | .startRenewal _ _ => ()

/-- What there is to see after an effect. -/
def Ledger.asked (l : Ledger ι κ) (actor : Actor ι κ) (o : Surroundings) :
    Effect handler → Ledger ι κ
  | .call c => l.called actor c
  | .freshId => l.drew actor o.id
  | _ => l

/-! ## The system -/

/-- The ledger, with the program that each actor has still to run, if it runs one. -/
structure System (handler ι κ : Type) extends Ledger ι κ where
  threads : Actor ι κ → Option (Program handler Ending)

/-- One move of the system. -/
inductive Move (ι κ : Type) where
  /-- A worker begins an iteration. -/
  | begin (i : ι)
  /-- A client begins an errand. -/
  | undertake (k : κ) (errand : Errand)
  /-- An actor goes on by one effect, or comes to the end of its program. -/
  | go (actor : Actor ι κ) (o : Surroundings)

namespace System

variable [DecidableEq ι] [DecidableEq κ]

/-- A system in which nothing was begun. -/
def opening (s : Store) : System handler ι κ := ⟨.opening s, fun _ => none⟩

/-- Whether an effect can be answered now: an identifier must be new, and a worker waits until its
renewals are over. -/
def admits (s : System handler ι κ) (actor : Actor ι κ) (o : Surroundings) :
    Effect handler → Bool
  | .freshId => o.id ∉ s.issued
  | .stopRenewal =>
    match actor with
    | .worker i => (s.threads (.renewal i)).isNone
    | _ => true
  | _ => true

/-- The programs beside the one that asks: a worker starts the renewals of its lock. -/
def beside (s : System handler ι κ) (actor : Actor ι κ) :
    Effect handler → Actor ι κ → Option (Program handler Ending)
  | .startRenewal job owner =>
    match actor with
    | .worker i => Function.update s.threads (.renewal i) (some (renewalOf job owner))
    | _ => s.threads
  | _ => s.threads

/-- An actor goes on with its program. -/
def resume (s : System handler ι κ) (actor : Actor ι κ) (o : Surroundings) :
    Program handler Ending → Option (System handler ι κ)
  | .done ending =>
    some
      { s.toLedger.ended actor ending with
        threads := Function.update s.threads actor ending.next? }
  | .ask e next =>
    if s.admits actor o e then
      some
        { s.toLedger.asked actor o e with
          threads := Function.update (s.beside actor e) actor (some (next (o.answer s.store e))) }
    else none

/-- An actor begins a program, if it runs none. -/
def start? (s : System handler ι κ) (actor : Actor ι κ) (program : Program handler Ending) :
    Option (System handler ι κ) :=
  if (s.threads actor).isNone then
    some { s with threads := Function.update s.threads actor (some program) }
  else none

/-- One move, for the workers of a crew. -/
def step (crew : ι → Worker handler) (s : System handler ι κ) :
    Move ι κ → Option (System handler ι κ)
  | .begin i => s.start? (.worker i) (crew i).iteration
  | .undertake k errand => s.start? (.client k) errand.program
  | .go actor o => (s.threads actor).bind (s.resume actor o)

/-- Several moves. -/
def run (crew : ι → Worker handler) (s : System handler ι κ) :
    List (Move ι κ) → Option (System handler ι κ)
  | [] => some s
  | move :: moves => (s.step crew move).bind fun t => run crew t moves

/-- No worker is in an iteration. -/
def AtRest (s : System handler ι κ) : Prop := ∀ i, s.threads (.worker i) = none

end System

/-! ## A run with a late worker

The worker `a` claims the one job there is and lets its lock run out. The worker `b` takes the lock
back and claims the job, whereupon `a` comes to the end of its handler, and finds its lock gone. The
handler of `b` panics, and since this was the last attempt, the job fails and is buried.
-/

namespace LateWorker

/-- The two workers. -/
def crew (i : Fin 2) : Worker Unit :=
  ⟨if i = 0 then "a" else "b", .standard, ⟨[("mail", ())]⟩⟩

theorem crew_distinct : Function.Injective fun i => (crew i).id := by
  have names : ∀ i j, (crew i).id = (crew j).id → i = j := by decide
  exact fun i j => names i j

/-- When `a` claims the job. -/
def morning : Instant := .epoch

/-- When its lock has run out. -/
def evening : Instant := (Instant.ofMilliseconds? 120000).getD .epoch

/-- Several steps of one actor, in surroundings of which only the time, the identifiers and the end
of the handler matter. -/
def go (n : Nat) (actor : Actor (Fin 2) Unit) (time : Instant) (id : Nat) (result : HandlerResult) :
    List (Move (Fin 2) Unit) :=
  List.replicate n (.go actor ⟨time, 0, .ofNat id, result, true, none⟩)

/-- The job is submitted, with two attempts. -/
def moves : List (Move (Fin 2) Unit) :=
  .undertake () (.enqueue ⟨.standard, false⟩ ⟨"mail", .object [], some 2, none⟩) ::
    go 8 (.client ()) morning 1 (.ok .null) ++
  .begin 0 :: go 10 (.worker 0) morning 0 (.ok .null) ++
  .begin 1 :: go 13 (.worker 1) evening 0 (.error (.panic none)) ++
  go 2 (.renewal 0) evening 0 (.ok .null) ++ go 13 (.worker 0) evening 0 (.ok .null) ++
  go 2 (.renewal 1) evening 0 (.ok .null) ++ go 18 (.worker 1) evening 2 (.ok .null)

/-- The system at the end. -/
def final : System Unit (Fin 2) Unit := ((System.opening .empty).run crew moves).get rfl

theorem run_eq : (System.opening .empty).run crew moves = some final := (Option.some_get rfl).symm

end LateWorker

end JobQueue
