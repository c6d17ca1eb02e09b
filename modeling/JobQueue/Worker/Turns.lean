import JobQueue.Worker.Basic

/-!
# Work that goes on

Workers of a pool, the renewals of a lock and the housekeeper go on until they are stopped. Each is
a program for one turn, which says whether another turn follows; the run that they belong to takes
the turns.

* `Worker.turn` looks whether the pool is shutting down, and works if not.
* `Worker.renewalTurn` waits for the time to renew a lock.
* `Housekeeper.turn` waits for the time to prune.
-/

namespace JobQueue

/-- Whether work goes on after a turn. -/
inductive Turn where
  | again
  | stop
  deriving DecidableEq

namespace Worker

variable {handler : Type}

/-- A worker begins to work for a pool. -/
def started (w : Worker handler) : Program handler Unit :=
  Program.tell .info "worker started" [("worker_id", .text w.id)]

/-- A worker has left its pool. -/
def stopped (w : Worker handler) : Program handler Unit :=
  Program.tell .info "worker stopped" [("worker_id", .text w.id)]

/-- Rests before the next turn. A shutdown ends the rest, and with it the work. -/
def idle (w : Worker handler) : Program handler Turn := do
  if ← Program.request (.rest w.settings.idlePollIntervalMs.toNat) then
    w.stopped
    pure .stop
  else pure .again

/-- One turn of a worker of a pool. After a job the next turn follows at once; when there was none,
or the iteration failed, the worker rests first. -/
def turn (w : Worker handler) : Program handler Turn := do
  if ← Program.request .isShuttingDown then
    w.stopped
    pure .stop
  else
    match ← w.runOnce.run with
    | .ok (some _) => pure .again
    | .ok none => w.idle
    | .error e =>
      let fields : Fields := [("worker_id", .text w.id), ("error", .text e.message)]
      if e.isInfrastructure then Program.tell .error "store unavailable, backing off" fields
      else Program.tell .warn "worker iteration failed" fields
      w.idle

/-- One turn of the renewals of a lock. They end when they are told to, and when the lock is gone;
a failing call does not end them. -/
def renewalTurn (job : Uuid) (worker : String) : Program handler Turn := do
  if ← Program.request .awaitRenewal then pure .stop
  else
    let now ← Program.request .now
    match ← Program.request (.call (.heartbeat job worker now)) with
    | .ok true =>
      Program.tell .trace "heartbeat renewed lock" []
      pure .again
    | .ok false =>
      Program.tell .warn "heartbeat found lock gone; stopping" []
      pure .stop
    | .error e =>
      Program.tell .warn "heartbeat failed" [("error", .text e.message)]
      pure .again

end Worker

/-- Prunes dead-letter records from time to time. -/
structure Housekeeper where
  retentionDays : UInt32
  intervalMs : UInt64

namespace Housekeeper

variable {handler : Type}

/-- One turn: rests, then prunes. A shutdown ends the rest, and with it the work. -/
def turn (h : Housekeeper) : Program handler Turn := do
  if ← Program.request (.rest h.intervalMs.toNat) then
    Program.tell .info "Housekeeper shutting down" []
    pure .stop
  else
    match ← (DeadLetterQueue.prune h.retentionDays).run with
    | .ok _ => pure .again
    | .error e =>
      Program.tell .warn ("housekeeper dead-letter prune error: " ++ e.message) []
      pure .again

end Housekeeper

end JobQueue
