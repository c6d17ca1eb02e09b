import JobQueue.Rehearsal.World

/-!
# Running a rehearsal

A thread that was woken goes on until it has to wait. When the leading thread waits, the others go
on in the order in which they were woken, until none can; then the leading one goes on if it was
woken, and otherwise the clock jumps to the next timer.

Fuel bounds how often something is asked, so that a rehearsal that would never end is cut off.

* `World.lead` runs a program in the leading thread.
* `World.sleep` and `World.awaitShutdown` let time pass.
* `World.startPool` and `World.shutDownPool` start the pool and shut it down.
-/

namespace JobQueue.Rehearsal.World

/-! ## Threads -/

/-- Goes on with the errand of a thread until it waits or ends. -/
def follow (id : Nat) (turn : Program Role Turn) : (fuel : Nat) → Program Role Turn → World → World
  | 0, _, w => w
  | _ + 1, .done .stop, w => w.finish id none
  | fuel + 1, .done .again, w => follow id turn fuel turn w
  | fuel + 1, .ask e next, w =>
    match w.answer id e with
    | (.answer a, w) => follow id turn fuel (next a) w
    | (.waiting, w) =>
      { w with errands := (id, ⟨.ask e next, turn⟩) :: w.errands.filter fun e => e.1 ≠ id }
    | (.panicked message, w) => w.finish id (some message)

/-- Has every thread that can go on do so, until none can. -/
def settle : (fuel : Nat) → World → World
  | 0, w => w
  | fuel + 1, w =>
    match w.ready with
    | [] => w
    | id :: rest =>
      let w := { w with ready := rest }
      match w.errands.find? fun e => e.1 = id with
      | none => settle fuel w
      | some (_, errand) => settle fuel (follow id errand.turn fuel errand.now w)

/-- Whether the first of two timers fires first. -/
def firesBefore (a b : Timer) : Bool :=
  a.deadline < b.deadline || (a.deadline = b.deadline && a.number < b.number)

/-- The timer that fires next. -/
def nextTimer? (w : World) : Option Timer :=
  match w.timers with
  | [] => none
  | first :: rest =>
    some (rest.foldl (fun best other => if firesBefore other best then other else best) first)

/-- Lets the clock jump to the next timer, and wakes everyone who waits for that moment. Without a
timer nothing happens. -/
def jump (w : World) : World :=
  match w.nextTimer? with
  | none => w
  | some next =>
    let due := (w.timers.filter fun t => t.deadline = next.deadline).mergeSort fun a b =>
      a.number ≤ b.number
    let w := { w with
      elapsed := Nat.max w.elapsed next.deadline
      timers := w.timers.filter fun t => t.deadline ≠ next.deadline }
    w.wakeAll (due.map Timer.thread)

/-- Lets the others go on, and time pass, until the leading thread is woken. -/
def untilWoken : (fuel : Nat) → World → World
  | 0, w => w
  | fuel + 1, w =>
    let w := settle fuel w
    if w.leaderWoken then { w with leaderWoken := false }
    else untilWoken fuel w.jump

/-! ## The leading thread -/

/-- How long anything may go on. -/
def stamina : Nat := 10000000

/-- Runs a program in the leading thread; `none` if it panics or does not end. -/
def leadFor {α : Type} : (fuel : Nat) → Program Role α → World → Option α × World
  | 0, _, w => (none, w)
  | _ + 1, .done a, w => (some a, w)
  | fuel + 1, .ask e next, w =>
    match w.answer 0 e with
    | (.answer a, w) => leadFor fuel (next a) w
    | (.waiting, w) => leadFor fuel (.ask e next) (untilWoken stamina w)
    | (.panicked _, w) => (none, (w.stopWaiting 0).modifyThread 0 fun t => { t with spans := [] })

/-- Runs a program in the leading thread; `none` if it panics. -/
def lead {α : Type} (w : World) (p : Program Role α) : Option α × World := leadFor stamina p w

/-- Lets the leading thread wait until it is woken at a time, or earlier if a condition holds. -/
def waitFor (deadline : Nat) (holds : World → Bool) : (fuel : Nat) → World → World
  | 0, w => w
  | fuel + 1, w =>
    if holds w || deadline ≤ w.elapsed then w.stopWaiting 0
    else waitFor deadline holds fuel (untilWoken stamina w)

/-- Lets the leading thread sleep. -/
def sleep (w : World) (ms : Nat) : World :=
  if ms = 0 then w
  else waitFor (w.elapsed + ms) (fun _ => false) stamina (w.wakeAt 0 (w.elapsed + ms))

/-- Waits for the shutdown signal, for some milliseconds at most, and answers whether it was
given. -/
def awaitShutdown (w : World) (ms : Nat) : Bool × World :=
  if w.state.signal.isGiven then (true, w)
  else
    let deadline := w.elapsed + ms
    let w := { w with state := { w.state with signal := w.state.signal.register 0 } }
    let w := waitFor deadline (fun w => w.state.signal.isGiven) stamina (w.wakeAt 0 deadline)
    (w.state.signal.isGiven, w)

/-- Gives the shutdown signal. -/
def giveSignal (w : World) : World :=
  let (woken, signal) := w.state.signal.give
  ({ w with state := { w.state with signal := signal } }).wakeAll woken

/-! ## The pool -/

/-- Begins the threads of duties, one after the other. -/
def employ : List (Pool.Duty Role) → World → List Nat × World
  | [], w => ([], w)
  | duty :: rest, w =>
    let (id, w) := w.spawn ⟨duty.opening >>= fun _ => duty.turn, duty.turn⟩ none []
    let (ids, w) := employ rest w
    (id :: ids, w)

/-- Starts the pool. -/
def startPool (w : World) : Except StartError Unit × World :=
  match w.state.admitsStart with
  | .error e => (.error e, w)
  | .ok () =>
    let (ids, w) := employ w.pool.duties w
    let state := match w.state.start? ids with
      | .ok state => state
      | .error _ => w.state
    let (_, w) := ({ w with state := state }).lead w.pool.reportStarted
    (.ok (), w)

/-- Waits for the end of a thread, as long as a shutdown waits, and tells if it did not end well. -/
def join (w : World) (id : Nat) : World :=
  let w :=
    if (w.ending? id).isSome then w
    else
      let deadline := w.elapsed + w.pool.settings.shutdownTimeoutMs.toNat
      let w := { w with joiners := (id, 0) :: w.joiners }
      let w := waitFor deadline (fun w => (w.ending? id).isSome) stamina (w.wakeAt 0 deadline)
      { w with joiners := w.joiners.filter fun j => j ≠ (id, 0) }
  match w.ending? id with
  | some none => w
  | some (some why) => w.tell 0 ⟨.warn, "Worker task failed: " ++ why, []⟩
  | none => w.tell 0 ⟨.warn, "Worker task timed out during shutdown", []⟩

/-- Shuts the pool down: gives the signal, and waits for each of its threads in turn. -/
def shutDownPool (w : World) : World :=
  let w := w.tell 0 ⟨.info, "Initiating graceful shutdown of queue runtime", []⟩
  let w := w.giveSignal
  let (ids, state) := w.state.takeTasks
  let w := ids.foldl join { w with state := state }
  w.tell 0 ⟨.info, "Queue runtime shutdown complete", []⟩

/-- Looks at a job every ten milliseconds until it is in a state, or until some time has passed, and
gives it as it is then. -/
def watchFor (id : Uuid) (status : Status) (deadline : Nat) : (fuel : Nat) → World →
    Option (Except QueueError Job) × World
  | 0, w => (none, w)
  | fuel + 1, w =>
    match w.lead (Client.getJob id).run with
    | (some (.ok job), w) =>
      if job.status = status || deadline ≤ w.elapsed then (some (.ok job), w)
      else watchFor id status deadline fuel (w.sleep 10)
    | (answer, w) => (answer, w)

/-- Waits until a job is in a state, for some milliseconds at most. -/
def watch (w : World) (id : Uuid) (status : Status) (ms : Nat) :
    Option (Except QueueError Job) × World :=
  watchFor id status (w.elapsed + ms) stamina w

/-- How often a worker works at most, and what its iterations gave: it stops when there is nothing
to claim, or at an error. -/
def workOff (worker : Worker Role) : (most : Nat) → World →
    Option (Except QueueError (List Outcome)) × World
  | 0, w => (some (.ok []), w)
  | most + 1, w =>
    match w.lead worker.runOnce.run with
    | (none, w) => (none, w)
    | (some (.error e), w) => (some (.error e), w)
    | (some (.ok none), w) => (some (.ok []), w)
    | (some (.ok (some outcome)), w) =>
      match workOff worker most w with
      | (some (.ok outcomes), w) => (some (.ok (outcome :: outcomes)), w)
      | other => other

/-- Submits one job after the other, each with its number as payload and the ranks in turn, up to
the first error. -/
def submitMany (jobType : String) (ranks : List Priority) : (count number : Nat) → World →
    Option (Except QueueError Unit) × World
  | 0, _, w => (some (.ok ()), w)
  | count + 1, number, w =>
    let request : NewJob :=
      ⟨jobType, .object [("i", Json.ofNat number)], none, ranks[number % ranks.length]?⟩
    match w.lead (w.pool.client.enqueue request).run with
    | (some (.ok _), w) => submitMany jobType ranks count (number + 1) w
    | (some (.error e), w) => (some (.error e), w)
    | (none, w) => (none, w)

end JobQueue.Rehearsal.World
