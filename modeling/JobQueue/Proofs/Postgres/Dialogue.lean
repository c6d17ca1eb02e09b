import JobQueue.Postgres.Exchange

/-!
# Dialogues with the database

An exchange and a script of replies make a dialogue: the statements that were made, each with the
reply that it got.

* `Exchange.dialogue`: the dialogue, and `Exchange.ending`: what the exchange ends with. They are
  what `Exchange.answerFrom` computes (`answerFrom_statements`, `dialogue_replies`).
* `Exchange.dialogue_bind`, `Exchange.ending_bind`: one exchange after another.
-/

namespace JobQueue.Postgres

namespace Exchange

variable {α β : Type}

/-- The statements of an exchange, each with its reply. -/
def dialogue : Exchange α → List Reply → List (Statement × Reply)
  | .done _, _ => []
  | .send s next, [] => (s, silence) :: (next silence).dialogue []
  | .send s next, reply :: replies => (s, reply) :: (next reply).dialogue replies

/-- What an exchange ends with. -/
def ending (e : Exchange α) (replies : List Reply) : α := (e.answerFrom replies).1

/-- The replies that an exchange leaves over. -/
def left (e : Exchange α) (replies : List Reply) : List Reply := (e.answerFrom replies).2.2

@[simp] theorem ending_done (a : α) (replies : List Reply) : (done a).ending replies = a := rfl

@[simp] theorem dialogue_done (a : α) (replies : List Reply) :
    (done a).dialogue replies = [] := by
  cases replies <;> rfl

/-- A reply of the script, or silence when there is none left, answers the statement. -/
theorem dialogue_send (s : Statement) (next : Reply → Exchange α) (replies : List Reply) :
    (send s next).dialogue replies =
      (s, replies.headD silence) :: (next (replies.headD silence)).dialogue replies.tail := by
  cases replies <;> rfl

theorem ending_send (s : Statement) (next : Reply → Exchange α) (replies : List Reply) :
    (send s next).ending replies = (next (replies.headD silence)).ending replies.tail := by
  cases replies <;> rfl

theorem left_send (s : Statement) (next : Reply → Exchange α) (replies : List Reply) :
    (send s next).left replies = (next (replies.headD silence)).left replies.tail := by
  cases replies <;> rfl

/-- The statements of a dialogue are those that are made when the script answers. -/
theorem answerFrom_statements (e : Exchange α) (replies : List Reply) :
    (e.answerFrom replies).2.1 = (e.dialogue replies).map (·.1) := by
  induction e generalizing replies with
  | done a => cases replies <;> rfl
  | send s next ih =>
    cases replies with
    | nil => exact congrArg (s :: ·) (ih silence [])
    | cons reply replies => exact congrArg (s :: ·) (ih reply replies)

/-- The replies of a dialogue are those of the script, in its order, and silence behind them. -/
theorem dialogue_replies (e : Exchange α) (replies : List Reply) :
    ∃ n, (e.dialogue replies).map (·.2) ++ e.left replies =
      replies ++ List.replicate n silence := by
  induction e generalizing replies with
  | done a =>
    refine ⟨0, ?_⟩
    rw [dialogue_done, List.replicate_zero, List.append_nil]
    rfl
  | send s next ih =>
    rw [dialogue_send, left_send]
    cases replies with
    | nil =>
      obtain ⟨n, hn⟩ := ih silence []
      exact ⟨n + 1, congrArg (silence :: ·) hn⟩
    | cons reply replies =>
      obtain ⟨n, hn⟩ := ih reply replies
      exact ⟨n, congrArg (reply :: ·) hn⟩

theorem ending_bind (e : Exchange α) (f : α → Exchange β) (replies : List Reply) :
    (e >>= f).ending replies = (f (e.ending replies)).ending (e.left replies) := by
  induction e generalizing replies with
  | done a => rfl
  | send s next ih => rw [send_bind, ending_send, ending_send, left_send, ih]

theorem dialogue_bind (e : Exchange α) (f : α → Exchange β) (replies : List Reply) :
    (e >>= f).dialogue replies =
      e.dialogue replies ++ (f (e.ending replies)).dialogue (e.left replies) := by
  induction e generalizing replies with
  | done a => rw [dialogue_done]; rfl
  | send s next ih =>
    rw [send_bind, dialogue_send, dialogue_send, ending_send, left_send, ih, List.cons_append]

end Exchange

end JobQueue.Postgres
