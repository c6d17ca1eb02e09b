import JobQueue.Pool.Basic
import JobQueue.Rehearsal.Script

/-!
# The world of a rehearsal

A rehearsal runs a queue in time that is only counted: the clock stands still while anyone can go
on, and jumps to the next moment that someone waits for when no one can. What the programs of the
queue ask is answered here: by a store in memory whose calls can be made to fail, by handlers that
follow scripts, and by that clock.

Work goes on in **threads**. Thread zero is the one that leads the rehearsal; the workers of the
pool, the housekeeper and the renewals of locks are the others. A thread that cannot be answered at
once waits, and is asked again when it is woken.

* `World.answer` answers one thing a thread asks, or has it wait.
* `World.wake` and `World.wakeAt` say when a thread is asked again.
-/

namespace JobQueue.Rehearsal

/-- A handler of a rehearsal is the name of its actor. -/
abbrev Role := String

/-! ## Faults -/

/-- What goes wrong with a call of the store. -/
inductive Fault where
  | error (e : QueueError)
  /-- The call panics, and with it the thread that made it. -/
  | panic (message : String)
  /-- The record that the call is about is deleted just before it. -/
  | vanish
  deriving DecidableEq

/-- Faults to come, each with the operation that it waits for, the next one first. -/
abbrev Faults := List (String × Fault)

/-- Takes the next fault of an operation. -/
def Faults.take (operation : String) : Faults → Option Fault × Faults
  | [] => (none, [])
  | (name, fault) :: rest =>
    if name = operation then (some fault, rest)
    else
      let (found, rest) := Faults.take operation rest
      (found, (name, fault) :: rest)

/-! ## Threads -/

/-- Renewals of a lock that run in a thread of their own. -/
structure Renewing where
  periodMs : Nat
  nextMs : Nat
  isStopping : Bool

/-- A thread: what it has entered and started, and what it waits for. -/
structure Thread where
  id : Nat
  /-- The spans that were entered, the innermost first. -/
  spans : List Span
  /-- The thread of the renewals that it started. -/
  renewals : Option Nat
  /-- The renewals that it is, if it is such a thread. -/
  renewing : Option Renewing
  /-- The time until which it waits. -/
  deadline : Option Nat
  /-- What the handler that it runs does. -/
  action : Option Action

/-- A thread that begins. -/
def Thread.fresh (id : Nat) : Thread := ⟨id, [], none, none, none, none⟩

/-- A moment at which a thread is woken; of two at one time the one asked for first comes first. -/
structure Timer where
  deadline : Nat
  number : Nat
  thread : Nat

/-- An event with the spans that it stands in, the outermost first. -/
structure Told where
  event : Event
  spans : List Span

/-- A program that goes on turn by turn. -/
structure Errand where
  now : Program Role Turn
  turn : Program Role Turn

/-- Everything there is in a rehearsal. -/
structure World where
  pool : Pool Role
  state : PoolState
  /-- The calendar time at which the rehearsal began. -/
  start : Instant
  /-- Milliseconds since then. -/
  elapsed : Nat
  store : Store
  faults : Faults
  metrics : Metrics
  /-- What was told, the last event first. -/
  told : List Told
  actors : List (Role × Actor)
  threads : List Thread
  /-- What the threads other than the leading one do. -/
  errands : List (Nat × Errand)
  /-- Threads that can go on, in the order in which they were woken. -/
  ready : List Nat
  /-- Whether the leading thread was woken. -/
  leaderWoken : Bool
  timers : List Timer
  /-- Threads that ended, each with what it panicked with, if it did. -/
  ended : List (Nat × Option String)
  /-- Who waits for the end of which thread. -/
  joiners : List (Nat × Nat)
  /-- How many identifiers, threads and timers were made. -/
  made : Nat

namespace World

/-- A rehearsal that begins. -/
def fresh (pool : Pool Role) (start : Instant) (actors : List (Role × Actor)) : World where
  pool := pool
  state := .fresh
  start := start
  elapsed := 0
  store := .empty
  faults := []
  metrics := .empty
  told := []
  actors := actors
  threads := [.fresh 0]
  errands := []
  ready := []
  leaderWoken := false
  timers := []
  ended := []
  joiners := []
  made := 0

/-- The calendar time a number of milliseconds from now. -/
def instantIn (w : World) (ms : Int) : Instant :=
  (w.start.add? ((w.elapsed + ms) * 1000000)).getD .last

/-- The calendar time. -/
def now (w : World) : Instant := w.instantIn 0

/-- A number that was not used yet. -/
def nextNumber (w : World) : Nat × World := (w.made + 1, { w with made := w.made + 1 })

/-! ## Threads and wakes -/

/-- The thread with an id. -/
def thread (w : World) (id : Nat) : Thread := (w.threads.find? fun t => t.id = id).getD (.fresh id)

/-- Changes a thread. -/
def modifyThread (w : World) (id : Nat) (change : Thread → Thread) : World :=
  { w with threads := w.threads.map fun t => if t.id = id then change t else t }

/-- Wakes a thread, once. -/
def wake (w : World) (id : Nat) : World :=
  if id = 0 then { w with leaderWoken := true }
  else if w.ready.contains id || (w.ended.any fun e => e.1 = id) then w
  else { w with ready := w.ready ++ [id] }

/-- Wakes threads one after the other. -/
def wakeAll (w : World) (ids : List Nat) : World := ids.foldl wake w

/-- Has a thread wait, and wakes it at a time. -/
def wakeAt (w : World) (id deadline : Nat) : World :=
  let (number, w) := w.nextNumber
  ({ w with timers := ⟨deadline, number, id⟩ :: w.timers }).modifyThread id
    fun t => { t with deadline := some deadline }

/-- A thread waits no longer. -/
def stopWaiting (w : World) (id : Nat) : World :=
  let w := w.modifyThread id fun t => { t with deadline := none, action := none }
  { w with
    timers := w.timers.filter fun timer => timer.thread ≠ id
    state := { w.state with signal := w.state.signal.withdraw id } }

/-- How a thread ended, if it did. -/
def ending? (w : World) (id : Nat) : Option (Option String) :=
  (w.ended.find? fun e => e.1 = id).map (·.2)

/-- Ends a thread, and wakes who waits for that. -/
def finish (w : World) (id : Nat) (why : Option String) : World :=
  let w := w.stopWaiting id
  let waiting := (w.joiners.filter fun j => j.1 = id).map (·.2)
  let w := { w with
    ended := (id, why) :: w.ended
    errands := w.errands.filter fun e => e.1 ≠ id
    threads := w.threads.filter fun t => t.id ≠ id
    joiners := w.joiners.filter fun j => j.1 ≠ id }
  w.wakeAll waiting

/-- Begins a thread. -/
def spawn (w : World) (errand : Errand) (renewing : Option Renewing) (spans : List Span) :
    Nat × World :=
  let (id, w) := w.nextNumber
  let thread := { Thread.fresh id with renewing := renewing, spans := spans }
  (id, { w with
    threads := thread :: w.threads
    errands := (id, errand) :: w.errands
    ready := w.ready ++ [id] })

/-! ## Answers -/

/-- What a thread that asks for something gets. -/
inductive Reply (α : Type) where
  | answer (a : α)
  /-- The thread waits, and asks again once it is woken. -/
  | waiting
  /-- The thread ends by a panic. -/
  | panicked (message : String)

/-- A call of the store, with the faults that wait for it. -/
def call (w : World) (c : Call) : Reply (Except QueueError c.Answer) × World :=
  let (fault, faults) := w.faults.take c.operation
  let w := { w with faults := faults }
  let perform (store : Store) : Reply (Except QueueError c.Answer) × World :=
    let (answer, store) := store.perform c
    (.answer answer, { w with store := store })
  match fault with
  | none => perform w.store
  | some (.error e) => (.answer (.error e), w)
  | some (.panic message) => (.panicked message, w)
  | some .vanish => perform (c.record?.elim w.store fun id => (w.store.deleteDeadLetter id).2)

/-- Tells an event in the spans of a thread. -/
def tell (w : World) (id : Nat) (event : Event) : World :=
  { w with told := ⟨event, (w.thread id).spans.reverse⟩ :: w.told }

/-- Ends a call of a handler: the thief steals, and the handler gives its result. -/
def endAction (w : World) (action : Action) : HandlerResult × World :=
  let w := match action.thief with
    | none => w
    | some (worker, laterMs) =>
      let later := w.instantIn laterMs
      { w with store := ((w.store.releaseStuck later).2.claimNext worker later).2 }
  match action.ending with
  | .panic message => (.error (.panic message), w)
  | .error e => (.error (.error e), w)
  | .value v => (.ok v, w)

/-- Begins a call of a handler, and says what it does. -/
def beginAction (w : World) (role : Role) (job : Job) : Action × World :=
  match w.actors.find? fun a => a.1 = role with
  | none => (Script.atOnce (.value job.payload), w)
  | some (_, actor) =>
    let actor := { actor with calls := ⟨job, w.elapsed⟩ :: actor.calls }
    (actor.script.action actor.calls.length job,
      { w with actors := w.actors.map fun a => if a.1 = role then (role, actor) else a })

/-- Runs a handler, which may sleep first. -/
def dispatch (w : World) (id : Nat) (role : Role) (job : Job) : Reply HandlerResult × World :=
  let conclude (w : World) (action : Action) : Reply HandlerResult × World :=
    let (result, w) := (w.stopWaiting id).endAction action
    (.answer result, w)
  let t := w.thread id
  match t.action, t.deadline with
  | some action, some deadline =>
    if deadline ≤ w.elapsed then conclude w action else (.waiting, w)
  | _, _ =>
    let (action, w) := w.beginAction role job
    if action.sleepMs = 0 then conclude w action
    else
      let w := w.wakeAt id (w.elapsed + action.sleepMs)
      (.waiting, w.modifyThread id fun t => { t with action := some action })

/-- Rests, unless the pool shuts down. -/
def rest (w : World) (id ms : Nat) : Reply Bool × World :=
  if w.state.signal.isGiven then (.answer true, w.stopWaiting id)
  else
    match (w.thread id).deadline with
    | some deadline =>
      if deadline ≤ w.elapsed then (.answer false, w.stopWaiting id) else (.waiting, w)
    | none =>
      if ms = 0 then (.answer false, w)
      else
        let w := { w with state := { w.state with signal := w.state.signal.register id } }
        (.waiting, w.wakeAt id (w.elapsed + ms))

/-- Waits for the time of the next renewal, or to be told to stop. -/
def awaitRenewal (w : World) (id : Nat) : Reply Bool × World :=
  match (w.thread id).renewing with
  | none => (.answer true, w)
  | some r =>
    if r.periodMs = 0 then (.panicked "the period of renewals must be non-zero", w)
    else if r.isStopping then (.answer true, w.stopWaiting id)
    else if r.nextMs ≤ w.elapsed then
      (.answer false, (w.stopWaiting id).modifyThread id fun t =>
        { t with renewing := some { r with nextMs := r.nextMs + r.periodMs } })
    else if (w.thread id).deadline.isSome then (.waiting, w)
    else (.waiting, w.wakeAt id r.nextMs)

/-- Starts renewals beside a thread. -/
def startRenewal (w : World) (id : Nat) (job : Uuid) (worker : String) : World :=
  let period := w.pool.settings.heartbeatIntervalMs.toNat
  let turn := Worker.renewalTurn job worker
  let (child, w) := w.spawn ⟨turn, turn⟩ (some ⟨period, w.elapsed + period, false⟩)
    [.heartbeat job worker]
  w.modifyThread id fun t => { t with renewals := some child }

/-- Stops the renewals that a thread started, and waits for their end. -/
def stopRenewal (w : World) (id : Nat) : Reply (Option String) × World :=
  match (w.thread id).renewals with
  | none => (.answer none, w)
  | some child =>
    match w.ending? child with
    | some why =>
      (.answer (why.map fun message => "task panicked with message " ++ Text.inspect message),
        w.modifyThread id fun t => { t with renewals := none })
    | none =>
      let w := w.modifyThread child fun t =>
        { t with renewing := t.renewing.map fun r => { r with isStopping := true } }
      let w := if w.joiners.contains (child, id) then w
        else { w with joiners := (child, id) :: w.joiners }
      (.waiting, w.wake child)

/-- Answers one thing that a thread asks, or has it wait. -/
def answer (w : World) (id : Nat) : (e : Effect Role) → Reply e.Answer × World
  | .call c => w.call c
  | .now => (.answer w.now, w)
  | .stopwatch => (.answer (w.elapsed * 1000000), w)
  | .freshId =>
    let (n, w) := w.nextNumber
    (.answer (.timeOrdered (w.now.toNanoseconds / 1000000).toNat n), w)
  | .tell event => (.answer (), w.tell id event)
  | .enter span => (.answer (), w.modifyThread id fun t => { t with spans := span :: t.spans })
  | .leave => (.answer (), w.modifyThread id fun t => { t with spans := t.spans.drop 1 })
  | .measure m => (.answer (), { w with metrics := w.metrics.record m })
  | .startRenewal job worker => (.answer (), w.startRenewal id job worker)
  | .stopRenewal => w.stopRenewal id
  | .dispatch role job => w.dispatch id role job
  | .isShuttingDown => (.answer w.state.signal.isGiven, w)
  | .rest ms => w.rest id ms
  | .awaitRenewal => w.awaitRenewal id

end World

end JobQueue.Rehearsal
