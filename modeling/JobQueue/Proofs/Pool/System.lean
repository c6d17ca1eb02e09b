import JobQueue.Proofs.Program.Heed
import Mathlib.Logic.Function.Basic

/-!
# A pool at work

Any number of starts and shutdowns of one pool are under way, and the tasks that were started go on,
in steps that take their turns in every order. A start takes the lock on the tasks, looks whether
the pool admits it, makes the tasks one by one, and gives the lock back. A shutdown gives the
signal, for which it needs no lock, and then takes the tasks out of the pool when the lock is free.
A task goes on by one effect at a time; what it asks for is answered anyhow, except that a look at
the signal finds what is so.

* `Gate` is what starts and shutdowns have in common, and `PoolSystem` has the tasks beside it.
* `PoolSystem.step` makes one move, and `PoolSystem.run` several.
* `PoolSystem.Step` says what a move can do, for the proofs.
* `PoolSystem.run_start`: a start that nothing disturbs does what `PoolState.start?` says.
-/

namespace JobQueue

variable {handler : Type}

namespace PoolState

variable {s t : PoolState} {tasks : List Nat} {e : StartError}

theorem admitsStart_eq_ok :
    s.admitsStart = .ok () ↔ s.tasks = [] ∧ s.signal.isGiven = false := by
  unfold admitsStart
  cases s.tasks <;> cases s.signal.isGiven <;> simp

theorem start?_eq_ok :
    s.start? tasks = .ok t ↔ s.admitsStart = .ok () ∧ { s with tasks := tasks } = t := by
  unfold start?
  cases s.admitsStart <;> simp [bind, Except.bind, pure, Except.pure]

theorem start?_eq_error : s.start? tasks = .error e ↔ s.admitsStart = .error e := by
  unfold start?
  cases s.admitsStart <;> simp [bind, Except.bind, pure, Except.pure]

end PoolState

/-! ## Starts and shutdowns -/

/-- How far a start of a pool has come. -/
inductive Starting (handler : Type) where
  | before
  /-- It waits for the lock on the tasks. -/
  | waiting
  /-- It has the lock. -/
  | holding
  /-- It has the lock, was admitted, and has these tasks still to make. -/
  | spawning (rest : List (Pool.Duty handler))
  | answered (result : Except StartError Unit)

namespace Starting

/-- Whether the start has the lock. -/
def holdsLock : Starting handler → Bool
  | .holding | .spawning _ => true
  | _ => false

/-- Whether the start was admitted. -/
def isAdmitted : Starting handler → Bool
  | .spawning _ | .answered (.ok ()) => true
  | _ => false

end Starting

/-- How far a shutdown of a pool has come. -/
inductive Stopping where
  | before
  | flagSet
  | notified
  /-- It has taken the tasks, and only waits for them. -/
  | taken

/-- A pool, who holds the lock on its tasks, and those that start it and shut it down. -/
structure Gate (handler : Type) where
  state : PoolState
  holder : Option Nat
  starts : Nat → Starting handler
  stops : Nat → Stopping

namespace Gate

/-- A pool that nobody has started or shut down. -/
def opening : Gate handler := ⟨.fresh, none, fun _ => .before, fun _ => .before⟩

/-- A start comes to a stage. -/
def started (g : Gate handler) (k : Nat) (stage : Starting handler) (holder : Option Nat) :
    Gate handler :=
  { g with holder := holder, starts := Function.update g.starts k stage }

/-- A shutdown comes to a stage. -/
def stopped (g : Gate handler) (j : Nat) (stage : Stopping) (state : PoolState) : Gate handler :=
  { g with state := state, stops := Function.update g.stops j stage }

/-- A start makes a task. -/
def spawned (g : Gate handler) (k : Nat) (rest : List (Pool.Duty handler)) (task : Nat) :
    Gate handler :=
  { g.started k (.spawning rest) g.holder with
    state := { g.state with tasks := g.state.tasks ++ [task] } }

end Gate

/-! ## Tasks -/

/-- What a task did. -/
inductive Doing where
  /-- It looked whether the signal was given. -/
  | looked (task : Nat) (given : Bool)
  | called (task : Nat) (c : Call)

/-- What there is to see of an effect. -/
def Doing.ofEffect (task : Nat) : (e : Effect handler) → e.Answer → List Doing
  | .isShuttingDown, given => [.looked task given]
  | .call c, _ => [.called task c]
  | _, _ => []

/-- A task, with what it has still to do in its turn. -/
structure Pool.Task (handler : Type) where
  duty : Pool.Duty handler
  program : Program handler Turn

/-- A task that was just made. -/
def Pool.Task.opening (d : Pool.Duty handler) : Pool.Task handler :=
  ⟨d, d.opening >>= fun _ => d.turn⟩

/-- A pool with its tasks. They have the numbers below `made`. -/
structure PoolSystem (handler : Type) extends Gate handler where
  running : Nat → Option (Pool.Task handler)
  made : Nat
  history : List Doing

namespace PoolSystem

/-- A pool without tasks. -/
def opening : PoolSystem handler := ⟨.opening, fun _ => none, 0, []⟩

/-- One move. -/
inductive Move (handler : Type) where
  | begin (k : Nat)
  | acquire (k : Nat)
  | check (k : Nat)
  | spawn (k : Nat)
  | finish (k : Nat)
  | setFlag (j : Nat)
  | notify (j : Nat)
  | take (j : Nat)
  /-- A task goes on by one effect, or to its next turn. -/
  | go (i : Nat) (answers : (e : Effect handler) → e.Answer)
  /-- A task breaks down. -/
  | fall (i : Nat)

/-- A look at the signal finds what is so. -/
def answer (s : PoolSystem handler) (answers : (e : Effect handler) → e.Answer) :
    (e : Effect handler) → e.Answer
  | .isShuttingDown => s.state.signal.isGiven
  | e => answers e

/-- A start makes its next task. -/
def spawn (s : PoolSystem handler) (k : Nat) (d : Pool.Duty handler)
    (rest : List (Pool.Duty handler)) : PoolSystem handler :=
  { s with
    toGate := s.spawned k rest s.made
    running := Function.update s.running s.made (some (.opening d))
    made := s.made + 1 }

/-- A task has done something, and comes to where it goes on, unless it is over. -/
def went (s : PoolSystem handler) (i : Nat) (next : Option (Pool.Task handler))
    (done : List Doing) : PoolSystem handler :=
  { s with running := Function.update s.running i next, history := s.history ++ done }

/-- A task goes on. -/
def resume (s : PoolSystem handler) (i : Nat) (answers : (e : Effect handler) → e.Answer)
    (t : Pool.Task handler) : PoolSystem handler :=
  match t.program with
  | .done .stop => s.went i none []
  | .done .again => s.went i (some ⟨t.duty, t.duty.turn⟩) []
  | .ask e next =>
    let answer := s.answer answers e
    s.went i (some ⟨t.duty, next answer⟩) (Doing.ofEffect i e answer)

/-- One move. One that is not possible makes no system. -/
def step (p : Pool handler) (s : PoolSystem handler) : Move handler → Option (PoolSystem handler)
  | .begin k =>
    match s.starts k with
    | .before => some { s with toGate := s.started k .waiting s.holder }
    | _ => none
  | .acquire k =>
    match s.starts k, s.holder with
    | .waiting, none => some { s with toGate := s.started k .holding (some k) }
    | _, _ => none
  | .check k =>
    match s.starts k with
    | .holding =>
      match s.state.admitsStart with
      | .ok () => some { s with toGate := s.started k (.spawning p.duties) s.holder }
      | .error e => some { s with toGate := s.started k (.answered (.error e)) none }
    | _ => none
  | .spawn k =>
    match s.starts k with
    | .spawning (d :: rest) => some (s.spawn k d rest)
    | _ => none
  | .finish k =>
    match s.starts k with
    | .spawning [] => some { s with toGate := s.started k (.answered (.ok ())) none }
    | _ => none
  | .setFlag j =>
    match s.stops j with
    | .before =>
      let state := { s.state with signal := s.state.signal.setFlag }
      some { s with toGate := s.stopped j .flagSet state }
    | _ => none
  | .notify j =>
    match s.stops j with
    | .flagSet =>
      let state := { s.state with signal := s.state.signal.notifyAll.2 }
      some { s with toGate := s.stopped j .notified state }
    | _ => none
  | .take j =>
    match s.stops j, s.holder with
    | .notified, none => some { s with toGate := s.stopped j .taken s.state.takeTasks.2 }
    | _, _ => none
  | .go i answers => (s.running i).map (s.resume i answers)
  | .fall i => (s.running i).map fun _ => s.went i none []

/-- Several moves. -/
def run (p : Pool handler) (s : PoolSystem handler) :
    List (Move handler) → Option (PoolSystem handler)
  | [] => some s
  | move :: moves => (s.step p move).bind fun t => run p t moves

/-! ## What a move can do -/

variable {p : Pool handler} {s t u : PoolSystem handler}

/-- What one move makes of a system. -/
inductive Step (p : Pool handler) (s : PoolSystem handler) : PoolSystem handler → Prop
  | begun {k : Nat} (before : s.starts k = .before) :
      Step p s { s with toGate := s.started k .waiting s.holder }
  | acquired {k : Nat} (waiting : s.starts k = .waiting) (free : s.holder = none) :
      Step p s { s with toGate := s.started k .holding (some k) }
  | admitted {k : Nat} (holding : s.starts k = .holding) (admits : s.state.admitsStart = .ok ()) :
      Step p s { s with toGate := s.started k (.spawning p.duties) s.holder }
  | refused {k : Nat} {e : StartError} (holding : s.starts k = .holding)
      (refuses : s.state.admitsStart = .error e) :
      Step p s { s with toGate := s.started k (.answered (.error e)) none }
  | spawned {k : Nat} {d : Pool.Duty handler} {rest : List (Pool.Duty handler)}
      (spawning : s.starts k = .spawning (d :: rest)) : Step p s (s.spawn k d rest)
  | finished {k : Nat} (spawning : s.starts k = .spawning []) :
      Step p s { s with toGate := s.started k (.answered (.ok ())) none }
  | flagSet {j : Nat} (before : s.stops j = .before) :
      Step p s { s with
        toGate := s.stopped j .flagSet { s.state with signal := s.state.signal.setFlag } }
  | notified {j : Nat} (flagSet : s.stops j = .flagSet) :
      Step p s { s with
        toGate := s.stopped j .notified { s.state with signal := s.state.signal.notifyAll.2 } }
  | taken {j : Nat} (notified : s.stops j = .notified) (free : s.holder = none) :
      Step p s { s with toGate := s.stopped j .taken s.state.takeTasks.2 }
  | resumed {i : Nat} {t : Pool.Task handler} (runs : s.running i = some t)
      (answers : (e : Effect handler) → e.Answer) : Step p s (s.resume i answers t)
  | fallen {i : Nat} {t : Pool.Task handler} (runs : s.running i = some t) :
      Step p s (s.went i none [])

theorem step_of_eq {move : Move handler} (h : s.step p move = some u) : Step p s u := by
  cases move with
  | begin k =>
    simp only [step] at h
    split at h <;> cases h
    next before => exact .begun before
  | acquire k =>
    simp only [step] at h
    split at h <;> cases h
    next waiting free => exact .acquired waiting free
  | check k =>
    simp only [step] at h
    split at h
    next holding =>
      split at h <;> cases h
      next admits => exact .admitted holding admits
      next refuses => exact .refused holding refuses
    next => cases h
  | spawn k =>
    simp only [step] at h
    split at h <;> cases h
    next spawning => exact .spawned spawning
  | finish k =>
    simp only [step] at h
    split at h <;> cases h
    next spawning => exact .finished spawning
  | setFlag j =>
    simp only [step] at h
    split at h <;> cases h
    next before => exact .flagSet before
  | notify j =>
    simp only [step] at h
    split at h <;> cases h
    next flagSet => exact .notified flagSet
  | take j =>
    simp only [step] at h
    split at h <;> cases h
    next notified free => exact .taken notified free
  | go i answers =>
    obtain ⟨t, runs, rfl⟩ := Option.map_eq_some_iff.mp h
    exact .resumed runs answers
  | fall i =>
    obtain ⟨t, runs, rfl⟩ := Option.map_eq_some_iff.mp h
    exact .fallen runs

/-- What every move keeps is kept by several. -/
theorem run_induction {I : PoolSystem handler → Prop} {moves : List (Move handler)}
    (run : s.run p moves = some u) (start : I s) (step : ∀ s u, Step p s u → I s → I u) : I u := by
  induction moves generalizing s with
  | nil =>
    cases run
    exact start
  | cons move moves ih =>
    obtain ⟨m, hstep, rest⟩ := Option.bind_eq_some_iff.mp run
    exact ih rest (step s m (step_of_eq hstep) start)

/-! ## Starts and shutdowns that nothing disturbs -/

variable {k j : Nat}

/-- The tasks of a start get the next numbers. -/
theorem run_spawns {duties : List (Pool.Duty handler)} (spawning : s.starts k = .spawning duties)
    (moves : List (Move handler)) :
    ∃ u : PoolSystem handler,
      s.run p (List.replicate duties.length (.spawn k) ++ moves) = u.run p moves ∧
      u.state = { s.state with tasks := s.state.tasks ++ List.range' s.made duties.length } ∧
      u.starts k = .spawning [] := by
  induction duties generalizing s with
  | nil => exact ⟨s, rfl, by simp, spawning⟩
  | cons d rest ih =>
    obtain ⟨u, same, state, through⟩ := @ih (s.spawn k d rest) (Function.update_self ..)
    refine ⟨u, ?_, ?_, through⟩
    · rw [List.length_cons, List.replicate_succ, List.cons_append, run, step, spawning]
      exact same
    · rw [state]
      simp [spawn, Gate.spawned, List.range'_succ]

/-- A start that nothing disturbs makes the tasks if `PoolState.start?` lets it. -/
theorem run_start (before : s.starts k = .before) (free : s.holder = none) {state : PoolState}
    (starts : s.state.start? (List.range' s.made p.duties.length) = .ok state) :
    ∃ u, s.run p (.begin k :: .acquire k :: .check k ::
        (List.replicate p.duties.length (.spawn k) ++ [.finish k])) = some u ∧
      u.state = state ∧ u.starts k = .answered (.ok ()) := by
  obtain ⟨admits, rfl⟩ := PoolState.start?_eq_ok.mp starts
  obtain ⟨t, begun, spawning, same, made⟩ : ∃ t : PoolSystem handler, (∀ moves,
      s.run p (.begin k :: .acquire k :: .check k :: moves) = t.run p moves) ∧
      t.starts k = .spawning p.duties ∧ t.state = s.state ∧ t.made = s.made := by
    refine ⟨{ s with
      toGate := ((s.started k .waiting none).started k .holding (some k)).started k
        (.spawning p.duties) (some k) }, ?_⟩
    simp [run, step, before, free, admits, Gate.started]
  obtain ⟨u, spawned, state, through⟩ := run_spawns spawning [.finish k]
  refine ⟨{ u with toGate := u.started k (.answered (.ok ())) none }, ?_, ?_,
    Function.update_self ..⟩
  · rw [begun, spawned]
    simp [run, step, through]
  · show u.state = _
    rw [state, same, made, (PoolState.admitsStart_eq_ok.mp admits).1, List.nil_append]

theorem run_start_refused (before : s.starts k = .before) (free : s.holder = none)
    {tasks : List Nat} {e : StartError} (refuses : s.state.start? tasks = .error e) :
    ∃ u, s.run p [.begin k, .acquire k, .check k] = some u ∧ u.state = s.state ∧
      u.starts k = .answered (.error e) := by
  have refuses : s.state.admitsStart = .error e := PoolState.start?_eq_error.mp refuses
  simp [run, step, before, free, refuses, Gate.started]

/-- A shutdown that nothing disturbs gives the signal and takes the tasks. -/
theorem run_shutdown (before : s.stops j = .before) (free : s.holder = none) :
    ∃ u, s.run p [.setFlag j, .notify j, .take j] = some u ∧
      u.state = (PoolState.takeTasks { s.state with signal := s.state.signal.give.2 }).2 := by
  simp [run, step, before, free, Gate.stopped, PoolState.takeTasks, Signal.give]

end PoolSystem

end JobQueue
