import JobQueue.Postgres.Exchange
import JobQueue.Postgres.Tables
import JobQueue.Store.Call

/-!
# The store in PostgreSQL

Every call of a store is one statement, but for the pass over expired locks, which makes one that
queues jobs again, one that looks for jobs without attempts left, and one more for each of these.
The statements carry the guards: a lock is renewed and an attempt is ended only where the job is
`processing` and the worker owns its lock.

* `Postgres.perform` is the exchange of a call.
* `Postgres.releaseStuck` is the one of the pass. An error in the middle of it ends the call,
  whatever jobs were failed before.
-/

namespace JobQueue.Postgres

/-! ## Jobs -/

/-- The code of a failure that says that a key is taken. -/
def uniqueViolation : String := "23505"

/-- Puts in a job, in a statement. -/
def insertsJob : String :=
  "INSERT INTO drover_jobs ( id, job_type, status, payload, result, attempts, max_attempts, " ++
    "priority, available_at, lock_owner, locked_at, last_heartbeat_at, visibility_timeout_ms, " ++
    "error, idempotency_key, started_at, finished_at, created_at, updated_at ) " ++
    "VALUES ($1, $2, $3, $4, $5, $6, $7, $8, $9, $10, $11, $12, $13, $14, $15, $16, $17, $18, " ++
    "$19) RETURNING *"

/-- Inserts a job. When its key is taken it is refused as a duplicate. -/
def insert (job : Job) : QueueExchange Job := do
  match ← QueueExchange.send insertsJob (jobParameters job) with
  | .failure code =>
    if code = uniqueViolation then
      throw (.conflict job.jobType (job.idempotencyKey.getD ""))
    else throw (QueueExchange.failed code)
  | .success rows _ =>
    let row ← QueueExchange.settled (QueueExchange.one rows)
    QueueExchange.settled (jobOfRow row)

/-- The job of a row, if there is one. -/
def jobOf? (row : Option Row) : QueueExchange (Option Job) :=
  match row with
  | none => pure none
  | some row => some <$> QueueExchange.settled (jobOfRow row)

/-- The jobs of rows. -/
def jobsOf (rows : List Row) : QueueExchange (List Job) :=
  QueueExchange.settled (rows.mapM jobOfRow)

/-- Finds a job. -/
def find (id : Uuid) : QueueExchange (Option Job) := do
  jobOf? (← QueueExchange.first? "SELECT * FROM drover_jobs WHERE id = $1" [some (.uuid id)])

/-- A limit or an offset, cut to the largest that the database takes. -/
def boundDatum (n : Nat) : Datum := .int8 (Int64.ofNat (Nat.min n (Word.largest 63)))

/-- Lists jobs. -/
def list (filter : JobFilter) : QueueExchange (List Job) := do
  jobsOf (← QueueExchange.rows
    ("SELECT * FROM drover_jobs WHERE ($1::TEXT IS NULL OR status = $1) " ++
      "AND ($2::TEXT IS NULL OR job_type = $2) ORDER BY created_at DESC, id DESC LIMIT $3")
    [filter.status.map fun status => .text status.text, filter.jobType.map .text,
      some (boundDatum filter.effectiveLimit)])

/-- Claims the first claimable job. -/
def claimNext (worker : String) (now : Instant) : QueueExchange (Option Job) := do
  jobOf? (← QueueExchange.first?
    ("UPDATE drover_jobs SET status = 'processing', lock_owner = $1, locked_at = $2, " ++
      "last_heartbeat_at = $2, started_at = COALESCE(started_at, $2), attempts = attempts + 1, " ++
      "updated_at = $2 WHERE id = ( SELECT id FROM drover_jobs WHERE status = 'queued' " ++
      "AND available_at <= $2 ORDER BY priority ASC, available_at ASC, created_at ASC LIMIT 1 " ++
      "FOR UPDATE SKIP LOCKED ) RETURNING *")
    [some (.text worker), some (.ofInstant now)])

/-- The condition that a worker holds the lock of a job. -/
def ownsLock : String := " WHERE id = $1 AND status = 'processing' AND lock_owner = $2"

/-- Makes a statement that changes at most one row, and answers whether it did. -/
def changesOne (sql : String) (parameters : List (Option Datum)) : QueueExchange Bool := do
  pure (decide ((← QueueExchange.affected sql parameters) = 1))

/-- Renews a lock. -/
def heartbeat (id : Uuid) (worker : String) (now : Instant) : QueueExchange Bool :=
  changesOne
    ("UPDATE drover_jobs SET locked_at = $3, last_heartbeat_at = $3, updated_at = $3" ++ ownsLock)
    [some (.uuid id), some (.text worker), some (.ofInstant now)]

/-- Clears a lock in a statement. -/
def clearsLock : String := "lock_owner = NULL, locked_at = NULL, last_heartbeat_at = NULL, "

/-- Ends an attempt with a result. -/
def markSucceeded (id : Uuid) (worker : String) (result : Json) (now : Instant) :
    QueueExchange Bool :=
  changesOne
    ("UPDATE drover_jobs SET status = 'succeeded', result = $3, error = NULL, finished_at = $4, " ++
      clearsLock ++ "updated_at = $4" ++ ownsLock)
    [some (.uuid id), some (.text worker), some (.json result), some (.ofInstant now)]

/-- Ends an attempt with a failure, to be tried again. -/
def markRetry (id : Uuid) (worker : String) (error : Failure) (availableAt now : Instant) :
    QueueExchange Bool :=
  changesOne
    ("UPDATE drover_jobs SET status = 'queued', error = $3, available_at = $4, " ++
      clearsLock ++ "updated_at = $5" ++ ownsLock)
    [some (.uuid id), some (.text worker), some (failureDatum error), some (.ofInstant availableAt),
      some (.ofInstant now)]

/-- What fails a job for good in a statement. -/
def failsJob : String :=
  "UPDATE drover_jobs SET status = 'failed', error = $3, finished_at = $4, " ++
    "idempotency_key = NULL, " ++ clearsLock ++ "updated_at = $4"

/-- Ends the last attempt with a failure. -/
def markFailed (id : Uuid) (worker : String) (error : Failure) (now : Instant) :
    QueueExchange (Option Job) := do
  jobOf? (← QueueExchange.first? (failsJob ++ ownsLock ++ " RETURNING *")
    [some (.uuid id), some (.text worker), some (failureDatum error), some (.ofInstant now)])

/-! ## Expired locks -/

/-- The condition that a lock ran out. -/
def lockRanOut : String :=
  " AND locked_at + visibility_timeout_ms * INTERVAL '1 millisecond' < $1"

/-- Fails a job in a statement, if its lock still is the one that was seen. -/
def failsExpired : String :=
  failsJob ++ " WHERE id = $1 AND status = 'processing' " ++
    "AND lock_owner IS NOT DISTINCT FROM $2 AND locked_at IS NOT DISTINCT FROM $5 RETURNING *"

/-- Fails one job whose last lock ran out, if its lock still is the one that was seen. -/
def failExpired (candidate : Row) (now : Instant) : QueueExchange (Option Job) := do
  let id ← QueueExchange.settled (candidate.required "id" .uuid)
  let owner ← QueueExchange.settled (candidate.optional "lock_owner" .text)
  let lockedAt ← QueueExchange.settled (candidate.optional "locked_at" .instant)
  jobOf? (← QueueExchange.first? failsExpired
    [some (.uuid id), owner.map .text, some (failureDatum (.visibilityTimeout owner)),
      some (.ofInstant now), lockedAt.map .ofInstant])

/-- Fails the jobs whose last locks ran out, one after the other, and gives those that still had the
lock that was seen. -/
def failAllExpired (now : Instant) : List Row → QueueExchange (List Job)
  | [] => pure []
  | candidate :: rest => do
    let job ← failExpired candidate now
    let jobs ← failAllExpired now rest
    pure (job.toList ++ jobs)

/-- Queues the jobs again whose locks ran out with attempts left, in a statement. -/
def requeuesExpired : String :=
  "UPDATE drover_jobs SET status = 'queued', " ++ clearsLock ++
    "updated_at = $1 WHERE status = 'processing' AND attempts < max_attempts" ++ lockRanOut

/-- Looks for the jobs whose last locks ran out, in a statement. -/
def selectsSpent : String :=
  "SELECT id, lock_owner, locked_at FROM drover_jobs WHERE status = 'processing' " ++
    "AND attempts >= max_attempts" ++ lockRanOut

/-- The pass over expired locks. -/
def releaseStuck (now : Instant) : QueueExchange StuckRelease := do
  let requeued ← QueueExchange.affected requeuesExpired [some (.ofInstant now)]
  let candidates ← QueueExchange.rows selectsSpent [some (.ofInstant now)]
  let exhausted ← failAllExpired now candidates
  pure ⟨requeued, exhausted⟩

/-! ## Counts -/

/-- A snapshot with the count of one row added. -/
def addCount (s : Snapshot) (row : Row) : Except QueueError Snapshot := do
  let jobType ← row.required "job_type" .text
  let statusText ← row.required "status" .text
  let count ← row.required "count" .int8
  let status ← statusOf statusText
  pure (s.add jobType status (countOf count))

/-- Counts all jobs. -/
def snapshot (now : Instant) : QueueExchange Snapshot := do
  let rows ← QueueExchange.rows
    "SELECT job_type, status, COUNT(*) AS count FROM drover_jobs GROUP BY job_type, status" []
  QueueExchange.settled (rows.foldlM addCount (Snapshot.empty now))

/-! ## Dead-letter records -/

/-- The record of a row, if there is one. -/
def recordOf? (row : Option Row) : QueueExchange (Option DeadLetter) :=
  match row with
  | none => pure none
  | some row => some <$> QueueExchange.settled (deadLetterOfRow row)

/-- Puts in a record, in a statement. -/
def insertsDeadLetter : String :=
  "INSERT INTO drover_dead_letter_jobs ( id, original_job_id, job_type, payload, priority, " ++
    "attempts, max_attempts, error, original_created_at, moved_to_dlq_at, retry_count, " ++
    "last_retried_at ) VALUES ($1, $2, $3, $4, $5, $6, $7, $8, $9, $10, $11, $12) RETURNING *"

/-- Inserts a record. -/
def insertDeadLetter (r : DeadLetter) : QueueExchange DeadLetter := do
  let rows ← QueueExchange.rows insertsDeadLetter (deadLetterParameters r)
  let row ← QueueExchange.settled (QueueExchange.one rows)
  QueueExchange.settled (deadLetterOfRow row)

/-- Finds a record. -/
def findDeadLetter (id : Uuid) : QueueExchange (Option DeadLetter) := do
  recordOf? (← QueueExchange.first? "SELECT * FROM drover_dead_letter_jobs WHERE id = $1"
    [some (.uuid id)])

/-- Lists records. -/
def listDeadLetters (filter : DeadLetterFilter) : QueueExchange (List DeadLetter) := do
  let rows ← QueueExchange.rows
    ("SELECT * FROM drover_dead_letter_jobs WHERE ($1::TEXT IS NULL OR job_type = $1) " ++
      "ORDER BY moved_to_dlq_at DESC, id DESC LIMIT $2 OFFSET $3")
    [filter.jobType.map .text, some (boundDatum filter.effectiveLimit),
      some (boundDatum filter.effectiveOffset)]
  QueueExchange.settled (rows.mapM deadLetterOfRow)

/-- Counts that a record was submitted again. -/
def incrementRetryCount (id : Uuid) (now : Instant) : QueueExchange (Option DeadLetter) := do
  recordOf? (← QueueExchange.first?
    ("UPDATE drover_dead_letter_jobs SET retry_count = retry_count + 1, last_retried_at = $2 " ++
      "WHERE id = $1 RETURNING *")
    [some (.uuid id), some (.ofInstant now)])

/-- Deletes a record. -/
def deleteDeadLetter (id : Uuid) : QueueExchange Bool :=
  changesOne "DELETE FROM drover_dead_letter_jobs WHERE id = $1" [some (.uuid id)]

/-- Deletes the records made before a time. -/
def deleteDeadLettersBefore (cutoff : Instant) : QueueExchange UInt64 :=
  QueueExchange.affected "DELETE FROM drover_dead_letter_jobs WHERE moved_to_dlq_at < $1"
    [some (.ofInstant cutoff)]

/-- The count in a row, which is its only column. -/
def countOfRow (row : Row) : Except QueueError UInt64 := do
  match row with
  | (column, _) :: _ => countOf <$> row.required column .int8
  | [] => throw (Row.unreadable "count")

/-- Counts the records. -/
def countDeadLetters : QueueExchange UInt64 := do
  let rows ← QueueExchange.rows "SELECT COUNT(*) FROM drover_dead_letter_jobs" []
  let row ← QueueExchange.settled (QueueExchange.one rows)
  QueueExchange.settled (countOfRow row)

/-! ## What statements give -/

/-- The columns of the rows that a statement gives. -/
def Statement.columns (s : Statement) : List (String × ColumnType) :=
  let starts (text : String) : Bool := text.isPrefixOf s.sql
  let keep (names : List String) := jobColumns.filter fun c => names.contains c.1
  let count := ("count", ColumnType.int8)
  if starts "SELECT COUNT(*)" then [count]
  else if starts "SELECT job_type, status" then keep ["job_type", "status"] ++ [count]
  else if starts "SELECT id, lock_owner" then keep ["id", "lock_owner", "locked_at"]
  else if ["INSERT INTO ", "SELECT * FROM ", "UPDATE "].any fun verb =>
      starts (verb ++ "drover_dead_letter_jobs") then deadLetterColumns
  else jobColumns

/-! ## Calls -/

/-- The exchange of a call of the store. -/
def perform : (call : Call) → QueueExchange call.Answer
  | .insert job => insert job
  | .find id => find id
  | .list filter => list filter
  | .claimNext worker now => claimNext worker now
  | .heartbeat id worker now => heartbeat id worker now
  | .markSucceeded id worker result now => markSucceeded id worker result now
  | .markRetry id worker error availableAt now => markRetry id worker error availableAt now
  | .markFailed id worker error now => markFailed id worker error now
  | .releaseStuck now => releaseStuck now
  | .snapshot now => snapshot now
  | .insertDeadLetter record => insertDeadLetter record
  | .findDeadLetter id => findDeadLetter id
  | .listDeadLetters filter => listDeadLetters filter
  | .incrementRetryCount id now => incrementRetryCount id now
  | .deleteDeadLetter id => deleteDeadLetter id
  | .deleteDeadLettersBefore cutoff => deleteDeadLettersBefore cutoff
  | .countDeadLetters => countDeadLetters

end JobQueue.Postgres
