import JobQueue.Postgres.Migration
import JobQueue.Postgres.Store

/-!
# Sessions with the database

A session lasts from the opening of the connections to their closing. Once they are closed, whatever
is asked of the session ends in an error, and nothing is said to the database.

* `Session.perform` makes a call of the store.
* `Session.migrate` makes the tables.
-/

namespace JobQueue.Postgres

/-- Whether the connections were closed, and what the database remembers of migrations. -/
structure Session where
  isClosed : Bool
  ledger : Ledger
  deriving DecidableEq

namespace Session

/-- Open connections to a database without the tables. -/
def fresh : Session := ⟨false, .fresh⟩

/-- Closes the connections. -/
def close (s : Session) : Session := { s with isClosed := true }

/-- What is said when the connections are closed. -/
def closed : QueueError := .database "connections are closed"

/-- Makes a call of the store. -/
def perform (s : Session) (call : Call) : QueueExchange call.Answer :=
  if s.isClosed then throw closed else Postgres.perform call

/-- Runs the migration if it was not applied. -/
def migrate (s : Session) (t : Ledger.Trouble) : Except QueueError (List String) × Session :=
  if s.isClosed then (.error Ledger.failed, s)
  else
    let (answer, ledger) := s.ledger.migrate t
    (answer, { s with ledger := ledger })

end Session

end JobQueue.Postgres
