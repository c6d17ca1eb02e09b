import JobQueue.Postgres.Column

/-!
# Exchanges with the database

What the store says to the database is a sequence of statements, each of which is answered before
the next one is made. An `Exchange` is such a sequence as it depends on the answers; a server, or
a script of replies, answers it.

* `Exchange.send` makes a statement; `Exchange.rows`, `Exchange.first?` and `Exchange.affected` make
  one and take from the reply what is wanted of it.
* `Exchange.answerFrom` answers an exchange from a script of replies.
-/

namespace JobQueue.Postgres

/-- A statement with its parameters. -/
structure Statement where
  sql : String
  parameters : List (Option Datum)
  deriving DecidableEq

/-- What the database replies to a statement. -/
inductive Reply where
  /-- The statement failed, with this code. -/
  | failure (code : String)
  /-- The rows that it gave, and how many it changed. -/
  | success (rows : List Row) (affected : Nat)

/-- Statements one after the other. -/
inductive Exchange (α : Type) where
  | done (a : α)
  | send (s : Statement) (next : Reply → Exchange α)

namespace Exchange

variable {α β : Type}

/-- One exchange after another. -/
def bind : Exchange α → (α → Exchange β) → Exchange β
  | .done a, f => f a
  | .send s next, f => .send s fun reply => (next reply).bind f

instance : Monad Exchange where
  pure := .done
  bind := bind

@[simp] theorem pure_eq (a : α) : (pure a : Exchange α) = .done a := rfl

@[simp] theorem done_bind (a : α) (f : α → Exchange β) : (done a >>= f) = f a := rfl

@[simp] theorem send_bind (s : Statement) (next : Reply → Exchange α) (f : α → Exchange β) :
    (send s next >>= f) = send s fun reply => next reply >>= f := rfl

/-- The reply when a script has none left: no rows, and nothing changed. -/
def silence : Reply := .success [] 0

/-- Answers an exchange from a script of cues, each of which gives a reply to the statement that it
is for. Gives what the exchange ends with, the statements that were made, and the cues that are
left. -/
def answerBy {cue : Type} (respond : Statement → cue → Reply) :
    Exchange α → List cue → α × List Statement × List cue
  | .done a, cues => (a, [], cues)
  | .send s next, [] =>
    let (a, statements, left) := (next silence).answerBy respond []
    (a, s :: statements, left)
  | .send s next, cue :: cues =>
    let (a, statements, left) := (next (respond s cue)).answerBy respond cues
    (a, s :: statements, left)

/-- Answers an exchange from a script of replies. -/
def answerFrom (e : Exchange α) (replies : List Reply) : α × List Statement × List Reply :=
  e.answerBy (fun _ reply => reply) replies

end Exchange

/-- An exchange that may end in an error of the queue. -/
abbrev QueueExchange := ExceptT QueueError Exchange

namespace QueueExchange

variable {α : Type}

/-- What is said of a statement that failed. -/
def failed (code : String) : QueueError := .database ("statement failed with code " ++ code)

/-- Makes a statement, and goes on with whatever the reply is. -/
def send (sql : String) (parameters : List (Option Datum)) : QueueExchange Reply :=
  ExceptT.mk (.send ⟨sql, parameters⟩ fun reply => .done (.ok reply))

/-- A settled answer. -/
def settled (a : Except QueueError α) : QueueExchange α := ExceptT.mk (pure a)

/-- Makes a statement, and takes the rows and the number of changes of its reply. -/
def request (sql : String) (parameters : List (Option Datum)) : QueueExchange (List Row × Nat) := do
  match ← send sql parameters with
  | .failure code => throw (failed code)
  | .success rows affected => pure (rows, affected)

/-- The rows that a statement gives. -/
def rows (sql : String) (parameters : List (Option Datum)) : QueueExchange (List Row) :=
  (·.1) <$> request sql parameters

/-- The first row that a statement gives, if there is one. -/
def first? (sql : String) (parameters : List (Option Datum)) : QueueExchange (Option Row) :=
  List.head? <$> rows sql parameters

/-- How much a statement changes. -/
def affected (sql : String) (parameters : List (Option Datum)) : QueueExchange UInt64 := do
  pure (UInt64.ofNat (← request sql parameters).2)

/-- The row of a statement that must give one. -/
def one (rows : List Row) : Except QueueError Row :=
  match rows with
  | row :: _ => .ok row
  | [] => .error (.database "no row")

end QueueExchange

end JobQueue.Postgres
