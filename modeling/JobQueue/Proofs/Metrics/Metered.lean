import JobQueue.Proofs.Interleaving.System
import JobQueue.Proofs.Program.Amid

/-!
# A store and its metrics

Clients and workers share one store, and count what they do in the same metrics. A step lets one of
their programs go on by one effect, so that the programs interleave in every order. Any call may
fail, and has no effect then. All that is asked for besides is answered by surroundings that are
chosen anew for every step.

* `Metered`: the store, the metrics, the programs that run, and all calls that were made.
* `Metered.step` makes one move, and `Metered.after` is what several moves come to, from a store
  with nothing in it.
* `Metered.history_prefix_step`: calls are only added to the history.
-/

namespace JobQueue

variable {handler : Type}

/-- A store with its metrics, the programs that run on it, and the calls that were made. -/
structure Metered (handler : Type) where
  store : Store
  metrics : Metrics
  running : List (Program handler Ending)
  history : List Deed

namespace Metered

/-- One move. -/
inductive Move (handler : Type) where
  /-- A client begins an errand. -/
  | undertake (errand : Errand)
  /-- A worker begins an iteration. -/
  | iterate (w : Worker handler)
  /-- Renewing a lock begins. -/
  | renew (job : Uuid) (owner : String)
  /-- One of the programs goes on by one effect, which fails if it is a call and there is an error,
  or comes to its end. -/
  | go (i : Nat) (o : Surroundings) (failure : Option QueueError)

/-- Nothing was done yet. -/
def opening : Metered handler := ⟨.empty, .empty, [], []⟩

/-- The answer to an effect. -/
def answer (s : Metered handler) (o : Surroundings) (failure : Option QueueError) :
    (e : Effect handler) → e.Answer
  | .call c =>
    match failure with
    | some e => .error e
    | none => (s.store.perform c).1
  | e => o.answer s.store e

/-- What an effect does. -/
def asked (s : Metered handler) (failure : Option QueueError) : Effect handler → Metered handler
  | .call c =>
    match failure with
    | some e => { s with history := s.history ++ [.failed s.store c e] }
    | none =>
      { s with
        store := (s.store.perform c).2
        history := s.history ++ [.made s.store c] }
  | .measure m => { s with metrics := s.metrics.record m }
  | _ => s

/-- A program begins. -/
def started (s : Metered handler) (program : Program handler Ending) : Metered handler :=
  { s with running := s.running ++ [program] }

/-- A program goes on. -/
def resumed (s : Metered handler) (i : Nat) (o : Surroundings) (failure : Option QueueError) :
    Program handler Ending → Metered handler
  | .done _ => { s with running := s.running.eraseIdx i }
  | .ask e next =>
    { s.asked failure e with running := s.running.set i (next (s.answer o failure e)) }

/-- One move. Where no program runs, nothing goes on. -/
def step (s : Metered handler) : Move handler → Metered handler
  | .undertake errand => s.started errand.program
  | .iterate w => s.started w.iteration
  | .renew job owner => s.started (renewalOf job owner)
  | .go i o failure =>
    match s.running[i]? with
    | some program => s.resumed i o failure program
    | none => s

/-- What several moves come to, from the beginning. -/
def after (moves : List (Move handler)) : Metered handler := moves.foldl step opening

/-! ## The history -/

theorem history_prefix_step (s : Metered handler) (move : Move handler) :
    s.history <+: (s.step move).history := by
  have asked (failure : Option QueueError) (e : Effect handler) :
      s.history <+: (s.asked failure e).history := by
    cases e with
    | call c => cases failure <;> exact List.prefix_append _ _
    | _ => exact List.prefix_rfl
  cases move with
  | undertake | iterate | renew => exact List.prefix_rfl
  | go i o failure =>
    rw [step]
    split
    next program _ =>
      cases program with
      | done => exact List.prefix_rfl
      | ask e next => exact asked failure e
    next => exact List.prefix_rfl

end Metered

end JobQueue
