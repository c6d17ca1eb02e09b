import JobQueue.Handler.ErrorChain
import JobQueue.Log.Event
import JobQueue.Metrics.Basic
import JobQueue.Store.Call

/-!
# Programs

Clients and workers are programs: they ask their surroundings for one thing after another and go on
with the answers. What a program asks is an `Effect`, and the surroundings may be a run in which
many programs take turns, a store whose calls fail, or a clock that jumps. A program on its own does
none of that; it is the tree of what it would ask next after every answer.

* `Program.ask` asks for one thing, and `Program` is a monad.
* `QueueProgram` is a program that may end in an error of the queue.
* `Program.within` names the piece of work that a program does.
-/

namespace JobQueue

/-- How a handler ended. -/
abbrev HandlerResult := Except HandlerFailure Json

/-- What a program asks of its surroundings. The handlers that it may run are of type `handler`. -/
inductive Effect (handler : Type) where
  /-- Makes a call of the store. -/
  | call (c : Call)
  /-- Reads the calendar clock. -/
  | now
  /-- Reads a clock that never goes back, in nanoseconds. -/
  | stopwatch
  /-- Makes an identifier that no one else has. -/
  | freshId
  /-- Tells an event. -/
  | tell (event : Event)
  /-- Enters a span. -/
  | enter (span : Span)
  /-- Leaves the span entered last. -/
  | leave
  /-- Counts a fact. -/
  | measure (m : Measurement)
  /-- Starts renewing the lock of a job beside what follows. -/
  | startRenewal (job : Uuid) (worker : String)
  /-- Stops renewing, and waits until the renewal under way is over. -/
  | stopRenewal
  /-- Runs a handler. -/
  | dispatch (h : handler) (job : Job)
  /-- Asks whether the pool is shutting down. -/
  | isShuttingDown
  /-- Rests for some milliseconds, or until the pool shuts down. -/
  | rest (milliseconds : Nat)
  /-- Waits until the lock is to be renewed, or renewing is to stop. -/
  | awaitRenewal

/-- What the surroundings answer. -/
@[reducible] def Effect.Answer {handler : Type} : Effect handler → Type
  | .call c => Except QueueError c.Answer
  | .now => Instant
  | .stopwatch => Nat
  | .freshId => Uuid
  | .tell _ => Unit
  | .enter _ => Unit
  | .leave => Unit
  | .measure _ => Unit
  | .startRenewal _ _ => Unit
  | .stopRenewal => Option String
  | .dispatch _ _ => HandlerResult
  | .isShuttingDown => Bool
  | .rest _ => Bool
  | .awaitRenewal => Bool

/-- A program: it is done, or asks for something and goes on with the answer. -/
inductive Program (handler : Type) (α : Type) where
  | done (a : α)
  | ask (e : Effect handler) (next : e.Answer → Program handler α)

namespace Program

variable {handler α β : Type}

/-- Runs a second program on what the first one ends with. -/
def bind : Program handler α → (α → Program handler β) → Program handler β
  | .done a, f => f a
  | .ask e next, f => .ask e fun answer => (next answer).bind f

instance : Monad (Program handler) where
  pure := .done
  bind := bind

@[simp] theorem pure_eq (a : α) : (pure a : Program handler α) = .done a := rfl

@[simp] theorem done_bind (a : α) (f : α → Program handler β) : (done a >>= f) = f a := rfl

@[simp] theorem ask_bind (e : Effect handler) (next : e.Answer → Program handler α)
    (f : α → Program handler β) : (ask e next >>= f) = ask e fun answer => next answer >>= f := rfl

theorem bind_done (p : Program handler α) : (p >>= done) = p := by
  induction p with
  | done a => rfl
  | ask e next ih => exact congrArg (ask e) (funext ih)

theorem bind_assoc {γ : Type} (p : Program handler α) (f : α → Program handler β)
    (g : β → Program handler γ) : (p >>= f >>= g) = (p >>= fun a => f a >>= g) := by
  induction p with
  | done a => rfl
  | ask e next ih => exact congrArg (ask e) (funext ih)

instance : LawfulMonad (Program handler) :=
  LawfulMonad.mk' _ (fun p => bind_done p) (fun _ _ => rfl) (fun p f g => bind_assoc p f g)

/-- Asks for one thing. -/
def request (e : Effect handler) : Program handler e.Answer := .ask e .done

/-- Tells an event. -/
def tell (level : Level) (message : String) (fields : Fields) : Program handler Unit :=
  request (.tell ⟨level, message, fields⟩)

/-- Counts a fact. -/
def measure (m : Measurement) : Program handler Unit := request (.measure m)

/-- A program inside a span. -/
def within (span : Span) (p : Program handler α) : Program handler α := do
  request (.enter span)
  let a ← p
  request .leave
  pure a

end Program

/-- A program that may end in an error of the queue. -/
abbrev QueueProgram (handler : Type) := ExceptT QueueError (Program handler)

namespace QueueProgram

variable {handler α : Type}

/-- A program that does not fail. -/
def lift (p : Program handler α) : QueueProgram handler α := ExceptT.lift p

/-- A settled answer. -/
def settled (a : Except QueueError α) : QueueProgram handler α := ExceptT.mk (pure a)

/-- Makes a call of the store; its error ends the program. -/
def call (c : Call) : QueueProgram handler c.Answer := ExceptT.mk (Program.request (.call c))

/-- Makes a call of the store, and goes on with its error too. -/
def attempt (c : Call) : QueueProgram handler (Except QueueError c.Answer) :=
  lift (Program.request (.call c))

/-- Reads the calendar clock. -/
def now : QueueProgram handler Instant := lift (Program.request .now)

/-- Makes an identifier that no one else has. -/
def freshId : QueueProgram handler Uuid := lift (Program.request .freshId)

/-- Tells an event. -/
def tell (level : Level) (message : String) (fields : Fields) : QueueProgram handler Unit :=
  lift (Program.tell level message fields)

/-- A program inside a span. -/
def within (span : Span) (p : QueueProgram handler α) : QueueProgram handler α :=
  ExceptT.mk (Program.within span p.run)

end QueueProgram

end JobQueue
