import JobQueue.Proofs.Interleaving.System

/-!
# Programs that run alone

A program runs to its end while no one else makes calls of the store. The surroundings answer all
else that it asks for, and are given ahead, one for each effect.

* `Program.alone` gives what a program ends with and the store then.
* `Program.alone_bind` and `QueueProgram.alone_bind`: the second of two programs runs in the store
  that the first one leaves, and of those that may fail only if that one did not.
-/

namespace JobQueue

variable {handler α β : Type}

/-- The store after an effect. -/
def Effect.storeAfter (s : Store) : Effect handler → Store
  | .call c => (s.perform c).2
  | _ => s

namespace Program

/-- Runs a program to its end while no one else makes calls of the store; each effect meets the
surroundings that are next in line. It gives what the program ends with, the store then, and the
surroundings that are still to come. -/
def alone : Program handler α → Store → (Nat → Surroundings) → α × Store × (Nat → Surroundings)
  | .done a, s, ahead => (a, s, ahead)
  | .ask e next, s, ahead =>
    (next ((ahead 0).answer s e)).alone (e.storeAfter s) fun n => ahead (n + 1)

@[simp] theorem alone_done (a : α) (s : Store) (ahead : Nat → Surroundings) :
    (done a : Program handler α).alone s ahead = (a, s, ahead) := rfl

theorem alone_bind (p : Program handler α) (f : α → Program handler β) (s : Store)
    (ahead : Nat → Surroundings) :
    (p >>= f).alone s ahead =
      (f (p.alone s ahead).1).alone (p.alone s ahead).2.1 (p.alone s ahead).2.2 := by
  induction p generalizing s ahead with
  | done a => rfl
  | ask e next ih => exact ih _ _ _

@[simp] theorem alone_request (e : Effect handler) (s : Store) (ahead : Nat → Surroundings) :
    (request e).alone s ahead =
      ((ahead 0).answer s e, e.storeAfter s, fun n => ahead (n + 1)) := rfl

@[simp] theorem alone_tell (level : Level) (message : String) (fields : Fields) (s : Store)
    (ahead : Nat → Surroundings) :
    (tell level message fields : Program handler Unit).alone s ahead =
      ((), s, fun n => ahead (n + 1)) := rfl

/-- A span takes one turn before and one behind. -/
@[simp] theorem alone_within (span : Span) (p : Program handler α) (s : Store)
    (ahead : Nat → Surroundings) :
    (within span p).alone s ahead =
      ((p.alone s fun n => ahead (n + 1)).1, (p.alone s fun n => ahead (n + 1)).2.1,
        fun n => (p.alone s fun n => ahead (n + 1)).2.2 (n + 1)) := by
  simp only [within, alone_bind]
  rfl

@[simp] theorem alone_reportEnqueued (job : Job) (s : Store) (ahead : Nat → Surroundings) :
    (reportEnqueued job : Program handler Unit).alone s ahead =
      ((), s, fun n => ahead (n + 2)) := rfl

end Program

namespace QueueProgram

open Program

variable (s : Store) (ahead : Nat → Surroundings)

/-- The second of two programs runs where the first one ended, unless that was in an error. -/
theorem alone_bind (p : QueueProgram handler α) (f : α → QueueProgram handler β) :
    (p >>= f).run.alone s ahead =
      match p.run.alone s ahead with
      | (.ok a, s, ahead) => (f a).run.alone s ahead
      | (.error e, s, ahead) => (.error e, s, ahead) := by
  rw [ExceptT.run_bind, Program.alone_bind]
  rcases p.run.alone s ahead with ⟨_ | _, s, ahead⟩ <;> rfl

@[simp] theorem alone_pure (a : α) :
    (pure a : QueueProgram handler α).run.alone s ahead = (.ok a, s, ahead) := rfl

@[simp] theorem alone_throw (e : QueueError) :
    (throw e : QueueProgram handler α).run.alone s ahead = (.error e, s, ahead) := rfl

@[simp] theorem alone_lift (p : Program handler α) :
    (lift p).run.alone s ahead =
      (.ok (p.alone s ahead).1, (p.alone s ahead).2.1, (p.alone s ahead).2.2) := by
  rw [lift, ExceptT.run_lift, map_eq_pure_bind, Program.alone_bind]
  rfl

@[simp] theorem alone_settled (a : Except QueueError α) :
    (settled a : QueueProgram handler α).run.alone s ahead = (a, s, ahead) := rfl

@[simp] theorem alone_call (c : Call) :
    (call c : QueueProgram handler c.Answer).run.alone s ahead =
      ((s.perform c).1, (s.perform c).2, fun n => ahead (n + 1)) := rfl

@[simp] theorem alone_attempt (c : Call) :
    (attempt c : QueueProgram handler _).run.alone s ahead =
      (.ok (s.perform c).1, (s.perform c).2, fun n => ahead (n + 1)) := rfl

@[simp] theorem alone_now :
    (now : QueueProgram handler Instant).run.alone s ahead =
      (.ok (ahead 0).time, s, fun n => ahead (n + 1)) := rfl

@[simp] theorem alone_freshId :
    (freshId : QueueProgram handler Uuid).run.alone s ahead =
      (.ok (ahead 0).id, s, fun n => ahead (n + 1)) := rfl

@[simp] theorem alone_tell (level : Level) (message : String) (fields : Fields) :
    (tell level message fields : QueueProgram handler Unit).run.alone s ahead =
      (.ok (), s, fun n => ahead (n + 1)) := rfl

@[simp] theorem alone_within (span : Span) (p : QueueProgram handler α) :
    (within span p).run.alone s ahead =
      ((p.run.alone s fun n => ahead (n + 1)).1, (p.run.alone s fun n => ahead (n + 1)).2.1,
        fun n => (p.run.alone s fun n => ahead (n + 1)).2.2 (n + 1)) :=
  Program.alone_within span p.run s ahead

end QueueProgram

end JobQueue
