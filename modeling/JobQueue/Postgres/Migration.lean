import JobQueue.Error

/-!
# The schema and its bookkeeping

The tables are made by a migration, which the database remembers as applied together with a checksum
of it. Before a migration is run, the bookkeeping is looked at: a migration that is half done, one
whose checksum differs, or one that is not known here keeps anything from being run.

* `Migration.statements` are the statements of the migration.
* `Ledger.migrate` runs what was not yet applied.
-/

namespace JobQueue.Postgres

namespace Migration

/-- The table of jobs. -/
def createJobs : String :=
  "CREATE TABLE IF NOT EXISTS drover_jobs ( id UUID PRIMARY KEY, job_type TEXT NOT NULL, " ++
    "status TEXT NOT NULL CHECK (status IN ('queued', 'processing', 'succeeded', 'failed')), " ++
    "payload JSONB NOT NULL, result JSONB, attempts INTEGER NOT NULL DEFAULT 0, " ++
    "max_attempts INTEGER NOT NULL CHECK (max_attempts >= 1), " ++
    "priority INTEGER NOT NULL DEFAULT 5, available_at TIMESTAMPTZ NOT NULL, lock_owner TEXT, " ++
    "locked_at TIMESTAMPTZ, last_heartbeat_at TIMESTAMPTZ, " ++
    "visibility_timeout_ms BIGINT NOT NULL, error JSONB, idempotency_key TEXT, " ++
    "started_at TIMESTAMPTZ, finished_at TIMESTAMPTZ, created_at TIMESTAMPTZ NOT NULL, " ++
    "updated_at TIMESTAMPTZ NOT NULL )"

/-- The table of dead-letter records. -/
def createDeadLetters : String :=
  "CREATE TABLE IF NOT EXISTS drover_dead_letter_jobs ( id UUID PRIMARY KEY, " ++
    "original_job_id UUID NOT NULL, job_type TEXT NOT NULL, payload JSONB NOT NULL, " ++
    "priority INTEGER NOT NULL, attempts INTEGER NOT NULL, max_attempts INTEGER NOT NULL, " ++
    "error JSONB, original_created_at TIMESTAMPTZ NOT NULL, " ++
    "moved_to_dlq_at TIMESTAMPTZ NOT NULL, retry_count INTEGER NOT NULL DEFAULT 0, " ++
    "last_retried_at TIMESTAMPTZ )"

/-- The statements of the migration. -/
def statements : List String := [
  createJobs,
  "CREATE INDEX IF NOT EXISTS drover_jobs_claim_idx ON drover_jobs " ++
    "(priority, available_at, created_at) WHERE status = 'queued'",
  "CREATE INDEX IF NOT EXISTS drover_jobs_processing_idx ON drover_jobs (locked_at) " ++
    "WHERE status = 'processing'",
  "CREATE UNIQUE INDEX IF NOT EXISTS drover_jobs_idempotency_key_idx ON drover_jobs " ++
    "(idempotency_key) WHERE idempotency_key IS NOT NULL",
  "CREATE INDEX IF NOT EXISTS drover_jobs_listing_idx ON drover_jobs (created_at DESC)",
  createDeadLetters,
  "CREATE INDEX IF NOT EXISTS drover_dead_letter_jobs_moved_idx ON drover_dead_letter_jobs " ++
    "(moved_to_dlq_at DESC)",
  "CREATE INDEX IF NOT EXISTS drover_dead_letter_jobs_original_idx ON drover_dead_letter_jobs " ++
    "(original_job_id)"]

/-- The lines of comment in the migration. -/
def comments : List String := [
  "-- Claim path: queued jobs ordered by priority then availability.",
  "-- Unstick path."]

/-- What is asked of the bookkeeping in every run. -/
def lookups : List String := [
  "SELECT current_database()",
  "SELECT pg_advisory_lock($1)",
  "CREATE TABLE IF NOT EXISTS _sqlx_migrations",
  "SELECT version, checksum FROM _sqlx_migrations ORDER BY version"]

/-- What begins the transaction of a migration. -/
def opening : String := "BEGIN"

end Migration

/-- What the database remembers of migrations. -/
structure Ledger where
  isApplied : Bool
  /-- The checksum that is remembered differs. -/
  isTampered : Bool
  /-- A migration counts as applied that is not known here. -/
  isForeign : Bool
  deriving DecidableEq

namespace Ledger

/-- A database without the tables. -/
def fresh : Ledger := ⟨false, false, false⟩

/-- The checksums that are remembered get changed, if there are any. -/
def tamper (l : Ledger) : Ledger := { l with isTampered := l.isTampered || l.isApplied }

/-- A migration that is not known here gets counted as applied. -/
def addForeign (l : Ledger) : Ledger := { l with isForeign := true }

/-- What goes wrong in one run: the migration is half done, or what contains a text fails. -/
structure Trouble where
  isDirty : Bool
  failing : Option String

/-- Whether one of several statements contains the text that fails. -/
def Trouble.hits (t : Trouble) (statements : List String) : Bool :=
  match t.failing with
  | none => false
  | some text => statements.any fun s => isInfix text.toList s.toList
where
  /-- Whether a text occurs in another one. -/
  isInfix (text : List Char) : List Char → Bool
    | [] => text.isEmpty
    | c :: rest => text.isPrefixOf (c :: rest) || isInfix text rest

/-- What is said of migrations that could not be run. -/
def failed : QueueError := .store "migration failed: "

/-- Runs the migration if it was not applied: gives the statements that were run, and the ledger
after them. -/
def migrate (l : Ledger) (t : Trouble) : Except QueueError (List String) × Ledger :=
  if t.hits Migration.lookups || t.isDirty || l.isForeign || (l.isApplied && l.isTampered) then
    (.error failed, l)
  else if l.isApplied then (.ok [], l)
  else if t.hits (Migration.opening :: Migration.statements ++ Migration.comments) then
    (.error failed, l)
  else (.ok Migration.statements, { l with isApplied := true })

end Ledger

end JobQueue.Postgres
