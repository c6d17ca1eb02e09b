import JobQueue.Store.Basic

/-!
# Calls of a store

The operations of a store as data. A client or a worker is a program that makes such calls and goes
on with their answers; what answers them may be the store in memory, one whose calls fail now and
then, or a database.

`Call.Answer` is what a call answers when it does not fail, and `Store.perform` is how the store in
memory answers.
-/

namespace JobQueue

/-- An operation of a store, with its arguments. -/
inductive Call where
  | insert (job : Job)
  | find (id : Uuid)
  | list (filter : JobFilter)
  | claimNext (worker : String) (now : Instant)
  | heartbeat (id : Uuid) (worker : String) (now : Instant)
  | markSucceeded (id : Uuid) (worker : String) (result : Json) (now : Instant)
  | markRetry (id : Uuid) (worker : String) (error : Failure) (availableAt now : Instant)
  | markFailed (id : Uuid) (worker : String) (error : Failure) (now : Instant)
  | releaseStuck (now : Instant)
  | snapshot (now : Instant)
  | insertDeadLetter (record : DeadLetter)
  | findDeadLetter (id : Uuid)
  | listDeadLetters (filter : DeadLetterFilter)
  | incrementRetryCount (id : Uuid) (now : Instant)
  | deleteDeadLetter (id : Uuid)
  | deleteDeadLettersBefore (cutoff : Instant)
  | countDeadLetters

namespace Call

/-- What a call answers. -/
@[reducible] def Answer : Call → Type
  | .insert _ => Job
  | .find _ => Option Job
  | .list _ => List Job
  | .claimNext _ _ => Option Job
  | .heartbeat _ _ _ => Bool
  | .markSucceeded _ _ _ _ => Bool
  | .markRetry _ _ _ _ _ => Bool
  | .markFailed _ _ _ _ => Option Job
  | .releaseStuck _ => StuckRelease
  | .snapshot _ => Snapshot
  | .insertDeadLetter _ => DeadLetter
  | .findDeadLetter _ => Option DeadLetter
  | .listDeadLetters _ => List DeadLetter
  | .incrementRetryCount _ _ => Option DeadLetter
  | .deleteDeadLetter _ => Bool
  | .deleteDeadLettersBefore _ => UInt64
  | .countDeadLetters => UInt64

/-- The name of an operation. -/
def operation : Call → String
  | .insert _ => "insert"
  | .find _ => "find"
  | .list _ => "list"
  | .claimNext _ _ => "claim_next"
  | .heartbeat _ _ _ => "heartbeat"
  | .markSucceeded _ _ _ _ => "mark_succeeded"
  | .markRetry _ _ _ _ _ => "mark_retry"
  | .markFailed _ _ _ _ => "mark_failed"
  | .releaseStuck _ => "release_stuck"
  | .snapshot _ => "snapshot"
  | .insertDeadLetter _ => "insert_dead_letter"
  | .findDeadLetter _ => "find_dead_letter"
  | .listDeadLetters _ => "list_dead_letters"
  | .incrementRetryCount _ _ => "increment_retry_count"
  | .deleteDeadLetter _ => "delete_dead_letter"
  | .deleteDeadLettersBefore _ => "delete_dead_letters_before"
  | .countDeadLetters => "count_dead_letters"

/-- The dead-letter record that a call counts on. -/
def record? : Call → Option Uuid
  | .incrementRetryCount id _ => some id
  | _ => none

end Call

/-- The answer of the store in memory to a call, and the store after it. Only `insert` can fail. -/
def Store.perform (s : Store) : (call : Call) → Except QueueError call.Answer × Store
  | .insert job => s.insert job
  | .find id => (.ok (s.find? id), s)
  | .list filter => (.ok (s.list filter), s)
  | .claimNext worker now => let (answer, s) := s.claimNext worker now; (.ok answer, s)
  | .heartbeat id worker now => let (answer, s) := s.heartbeat id worker now; (.ok answer, s)
  | .markSucceeded id worker result now =>
    let (answer, s) := s.markSucceeded id worker result now; (.ok answer, s)
  | .markRetry id worker error availableAt now =>
    let (answer, s) := s.markRetry id worker error availableAt now; (.ok answer, s)
  | .markFailed id worker error now =>
    let (answer, s) := s.markFailed id worker error now; (.ok answer, s)
  | .releaseStuck now => let (answer, s) := s.releaseStuck now; (.ok answer, s)
  | .snapshot now => (.ok (s.snapshot now), s)
  | .insertDeadLetter record => (.ok record, s.insertDeadLetter record)
  | .findDeadLetter id => (.ok (s.findDeadLetter? id), s)
  | .listDeadLetters filter => (.ok (s.listDeadLetters filter), s)
  | .incrementRetryCount id now => let (answer, s) := s.incrementRetryCount id now; (.ok answer, s)
  | .deleteDeadLetter id => let (answer, s) := s.deleteDeadLetter id; (.ok answer, s)
  | .deleteDeadLettersBefore cutoff =>
    let (answer, s) := s.deleteDeadLettersBefore cutoff; (.ok answer, s)
  | .countDeadLetters => (.ok s.countDeadLetters, s)

end JobQueue
