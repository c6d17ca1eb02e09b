import JobQueue.Pool.Signal
import JobQueue.Worker.Turns

/-!
# Pools

A pool runs as many workers as its settings say, and a housekeeper if dead letters are kept for a
limited time only. It is planned first, which checks the settings and that the stores are there;
then it is started, once; and it is shut down, after which it cannot be started again.

* `PoolPlan.build` makes a pool of a plan.
* `Pool.workerId` names the workers: no two of one pool, nor of pools with different instance names,
  share a name.
* `PoolState.start?` says when a pool may be started, and `PoolState.takeTasks` hands its tasks to
  the shutdown that waits for them.
-/

namespace JobQueue

/-- A pool: its settings, its handlers, and the name that tells it from other pools. -/
structure Pool (handler : Type) where
  settings : Settings
  registry : Registry handler
  instanceId : String

namespace Pool

variable {handler : Type}

/-- The instance name that an identifier gives: its first eight digits. -/
def instanceOf (id : Uuid) : String := String.ofList (id.digits.take 8)

/-- The name of the worker in a slot. -/
def workerId (p : Pool handler) (slot : Nat) : String :=
  p.settings.workerPrefix ++ "-" ++ p.instanceId ++ "-w" ++ toString slot

/-- The names of all workers. -/
def workerIds (p : Pool handler) : List String :=
  (List.range p.settings.concurrency.toNat).map p.workerId

/-- A worker with the handlers of the pool. -/
def worker (p : Pool handler) (id : String) : Worker handler := ⟨id, p.settings, p.registry⟩

/-- The client of the pool. Its snapshots count dead-letter records. -/
def client (p : Pool handler) : Client := ⟨p.settings, true⟩

/-- The dead-letter queue of the pool. -/
def deadLetters (p : Pool handler) : DeadLetterQueue := ⟨p.client⟩

/-- What a task of a pool does. -/
inductive Duty (handler : Type) where
  | work (w : Worker handler)
  | keepHouse (h : Housekeeper)

namespace Duty

/-- What a task does before its first turn. -/
def opening : Duty handler → Program handler Unit
  | .work w => w.started
  | .keepHouse _ => pure ()

/-- One turn of a task. -/
def turn : Duty handler → Program handler Turn
  | .work w => w.turn
  | .keepHouse h => h.turn

end Duty

/-- The tasks that a start makes: the workers, and the housekeeper behind them. -/
def duties (p : Pool handler) : List (Duty handler) :=
  p.workerIds.map (fun id => .work (p.worker id)) ++
    (p.settings.dlqRetentionDays.map fun days =>
      Duty.keepHouse ⟨days, p.settings.dlqPruneIntervalMs⟩).toList

/-- What is told of a start. -/
def reportStarted (p : Pool handler) : Program handler Unit :=
  Program.tell .info "queue runtime started"
    [("instance_id", .text p.instanceId), ("concurrency", .number p.settings.concurrency.toNat),
      ("job_types", .text p.registry.inspectTypes)]

end Pool

/-! ## Starting and shutting down -/

/-- The tasks that a pool holds, and its shutdown signal. -/
structure PoolState where
  tasks : List Nat
  signal : Signal

/-- Why a pool cannot be started. -/
inductive StartError where
  | alreadyStarted
  | shutDown
  deriving DecidableEq

/-- What is said of a pool that cannot be started. -/
def StartError.message : StartError → String
  | .alreadyStarted => "queue runtime already started"
  | .shutDown => "queue runtime has been shut down"

namespace PoolState

/-- A pool that was not started. -/
def fresh : PoolState := ⟨[], .fresh⟩

/-- Whether the pool may be started: it holds no tasks, and the signal was not given. -/
def admitsStart (s : PoolState) : Except StartError Unit :=
  if !s.tasks.isEmpty then .error .alreadyStarted
  else if s.signal.isGiven then .error .shutDown
  else .ok ()

/-- Starts the pool with new tasks. -/
def start? (s : PoolState) (tasks : List Nat) : Except StartError PoolState := do
  s.admitsStart
  pure { s with tasks := tasks }

/-- Takes the tasks out of the pool, so that they can be waited for. -/
def takeTasks (s : PoolState) : List Nat × PoolState := (s.tasks, { s with tasks := [] })

end PoolState

/-- The view of a pool for inspection. -/
def Pool.inspect {handler : Type} (p : Pool handler) (s : PoolState) : String :=
  Text.inspectRecord "QueueRuntime"
    [("config", p.settings.inspect), ("instance_id", Text.inspect p.instanceId),
      ("registry", p.registry.inspect), ("task_count", toString s.tasks.length),
      ("shutdown_cancelled", if s.signal.isGiven then "true" else "false")]

/-! ## Planning -/

/-- A pool to be: its settings, which stores it was given, and its handlers, if it was given any. -/
structure PoolPlan (handler : Type) where
  settings : Settings
  hasJobStore : Bool
  hasDeadLetterStore : Bool
  registry : Option (Registry handler)

/-- Why a plan makes no pool. -/
inductive PlanError where
  | invalid (rule : InvalidSetting)
  | noJobStore
  | noDeadLetterStore
  deriving DecidableEq

/-- What is said of a plan that makes no pool. -/
def PlanError.message : PlanError → String
  | .invalid rule => (QueueError.config rule.message).message
  | .noJobStore => "job store dependency missing"
  | .noDeadLetterStore => "dead-letter store dependency missing"

namespace PoolPlan

variable {handler : Type}

/-- A plan with nothing but settings. -/
def ofSettings (settings : Settings) : PoolPlan handler := ⟨settings, false, false, none⟩

/-- The handlers of the plan, none if it was given none. -/
def handlers (p : PoolPlan handler) : Registry handler := p.registry.getD .empty

/-- Makes the pool of a plan, under an instance name. -/
def build (p : PoolPlan handler) (instanceId : String) : Except PlanError (Pool handler) :=
  match p.settings.broken? with
  | some rule => .error (.invalid rule)
  | none =>
    if !p.hasJobStore then .error .noJobStore
    else if !p.hasDeadLetterStore then .error .noDeadLetterStore
    else .ok ⟨p.settings, p.handlers, instanceId⟩

/-- What is told of a plan that made a pool. -/
def reportBuilt (p : PoolPlan handler) : Program handler Unit :=
  if p.handlers.isEmpty then
    Program.tell .warn "queue runtime built without any registered handlers" []
  else pure ()

end PoolPlan

end JobQueue
