import JobQueue.DeadLetter.Queue
import JobQueue.Proofs.Program.Alone

/-!
# Submissions that run alone

What a submission makes of a store when no one else makes calls meanwhile, once for a client and
once for a dead-letter record that is submitted again.

* `Client.Refuses` and `Client.check_cases`: what does not pass its check, and what becomes of the
  rest.
* `Client.submitted` and `Client.alone_enqueue`: a submission is checked, and then put in.
* `DeadLetterQueue.retried` and `DeadLetterQueue.alone_retry`: a record is looked up, submitted, and
  counted on.
-/

namespace JobQueue

variable {handler : Type}

namespace Client

/-! ## The check -/

/-- A submission that is refused by its content: it has no type, its payload is no object, or it
asks for no attempt. -/
def Refuses (c : Client) (r : NewJob) : Prop :=
  Text.trim r.jobType = "" ∨ r.payload.isObject = false ∨
    r.maxAttempts.getD c.settings.defaultMaxAttempts = 0

/-- A submission is refused by its content, or is let through with its type trimmed. -/
theorem check_cases (c : Client) (r : NewJob) :
    (c.Refuses r ∧ ∃ why, c.check r = .error (.invalidJobType why) ∨
      c.check r = .error (.invalidPayload why)) ∨
    (¬c.Refuses r ∧ c.check r = .ok
      ⟨Text.trim r.jobType, r.payload, r.maxAttempts.getD c.settings.defaultMaxAttempts,
        r.priority.getD .normal⟩) := by
  unfold check
  dsimp only
  split
  · rename_i noType
    exact .inl ⟨.inl (String.isEmpty_iff.mp noType), _, .inl rfl⟩
  · rename_i hasType
    rw [String.isEmpty_iff] at hasType
    split
    · rename_i noObject
      exact .inl ⟨.inr (.inl (by simpa using noObject)), _, .inr rfl⟩
    · rename_i isObject
      split
      · rename_i noAttempt
        exact .inl ⟨.inr (.inr noAttempt), _, .inr rfl⟩
      · rename_i attempts
        refine .inr ⟨?_, rfl⟩
        rintro (noType | noObject | noAttempt)
        · exact hasType noType
        · exact isObject (by simp [noObject])
        · exact attempts noAttempt

/-! ## Submitting -/

/-- What a submission makes of a store: an answer and the next store. -/
def submitted (c : Client) (r : NewJob) (s : Store) (id : Uuid) (now : Instant) :
    Except QueueError Job × Store :=
  match c.check r with
  | .error e => (.error e, s)
  | .ok admitted => s.insert (c.stamp admitted id now)

theorem alone_insert (job : Job) (s : Store) (ahead : Nat → Surroundings) :
    ∃ n, (insert job : QueueProgram handler Job).run.alone s ahead =
      ((s.insert job).1, (s.insert job).2, fun k => ahead (k + n)) := by
  have asked : (QueueProgram.attempt (.insert job)).run.alone s ahead =
      (.ok (s.insert job).1, (s.insert job).2, fun k => ahead (k + 1)) :=
    @QueueProgram.alone_attempt handler s ahead (.insert job)
  rw [insert, QueueProgram.alone_bind, asked]
  rcases s.insert job with ⟨e | stored, after⟩
  · dsimp only
    split
    · exact ⟨2, rfl⟩
    · exact ⟨1, rfl⟩
  · exact ⟨1, rfl⟩

/-- A client that submits alone gets what `Client.submitted` says. -/
theorem alone_enqueue (c : Client) (r : NewJob) (s : Store) (ahead : Nat → Surroundings) :
    ∃ n, (c.enqueue r : QueueProgram handler Job).run.alone s ahead =
      ((c.submitted r s (ahead 2).id (ahead 1).time).1,
        (c.submitted r s (ahead 2).id (ahead 1).time).2, fun k => ahead (k + n)) := by
  unfold submitted enqueue
  cases h : c.check r with
  | error e => exact ⟨2, rfl⟩
  | ok admitted =>
    obtain ⟨n, inserted⟩ := @alone_insert handler
      (c.stamp admitted (ahead 2).id (ahead 1).time) s fun k => ahead (k + 3)
    simp only [QueueProgram.alone_within, QueueProgram.alone_bind, QueueProgram.alone_settled,
      QueueProgram.alone_now, QueueProgram.alone_freshId, inserted]
    rcases s.insert (c.stamp admitted (ahead 2).id (ahead 1).time) with ⟨e | stored, after⟩
    · have turns (k : Nat) : k + 1 + n + 3 = k + (n + 4) := by omega
      exact ⟨n + 4, by simp only [turns]⟩
    · have turns (k : Nat) : k + 1 + 2 + n + 3 = k + (n + 6) := by omega
      exact ⟨n + 6, by simp [turns]⟩

end Client

namespace DeadLetterQueue

/-- What a new submission of a record makes of a store: an answer and the next store. -/
def retried (q : DeadLetterQueue) (target : Uuid) (s : Store) (id : Uuid) (now later : Instant) :
    Except QueueError Resubmission × Store :=
  match s.findDeadLetter? target with
  | none => (.error (.deadLetterNotFound target), s)
  | some record =>
    match q.client.submitted (resubmission record) s id now with
    | (.error e, s) => (.error e, s)
    | (.ok job, s) =>
      match s.incrementRetryCount target later with
      | (none, s) => (.error (.deadLetterNotFound target), s)
      | (some record, s) => (.ok ⟨record, job.id⟩, s)

/-- The store is that after the submission of the record, which may have been counted on then. -/
theorem retried_store (q : DeadLetterQueue) {target : Uuid} {s : Store} {record : DeadLetter}
    (found : s.findDeadLetter? target = some record) (id : Uuid) (now later : Instant) :
    (q.retried target s id now later).2 = (q.client.submitted (resubmission record) s id now).2 ∨
      (q.retried target s id now later).2 =
        ((q.client.submitted (resubmission record) s id now).2.perform
          (.incrementRetryCount target later)).2 := by
  rw [retried, found]
  dsimp only
  rcases q.client.submitted (resubmission record) s id now with ⟨e | job, after⟩
  · exact .inl rfl
  · refine .inr ?_
    dsimp only [Store.perform]
    rcases after.incrementRetryCount target later with ⟨_ | record, last⟩ <;> rfl

theorem alone_get (target : Uuid) (s : Store) (ahead : Nat → Surroundings) :
    (get target : QueueProgram handler DeadLetter).run.alone s ahead =
      (match s.findDeadLetter? target with
        | some record => .ok record
        | none => .error (.deadLetterNotFound target), s, fun k => ahead (k + 1)) := by
  have asked : (QueueProgram.call (.findDeadLetter target)).run.alone s ahead =
      (.ok (s.findDeadLetter? target), s, fun k => ahead (k + 1)) :=
    @QueueProgram.alone_call handler s ahead (.findDeadLetter target)
  rw [get, QueueProgram.alone_bind, asked]
  cases s.findDeadLetter? target <;> rfl

/-- A record that is submitted again alone gets what `DeadLetterQueue.retried` says. -/
theorem alone_retry (q : DeadLetterQueue) (target : Uuid) (s : Store)
    (ahead : Nat → Surroundings) :
    ∃ m n, (q.retry target : QueueProgram handler Resubmission).run.alone s ahead =
      ((q.retried target s (ahead 4).id (ahead 3).time (ahead m).time).1,
        (q.retried target s (ahead 4).id (ahead 3).time (ahead m).time).2,
        fun k => ahead (k + n)) := by
  unfold retried
  rw [retry, QueueProgram.alone_within, QueueProgram.alone_bind, alone_get]
  cases s.findDeadLetter? target with
  | none => exact ⟨0, 3, rfl⟩
  | some record =>
    obtain ⟨n, submitted⟩ := @Client.alone_enqueue handler q.client (resubmission record) s
      fun k => ahead (k + 2)
    dsimp only
    simp only [QueueProgram.alone_bind, submitted]
    rcases q.client.submitted (resubmission record) s (ahead 4).id (ahead 3).time with
      ⟨e | job, after⟩
    · refine ⟨0, n + 3, ?_⟩
      have turns (k : Nat) : k + 1 + n + 2 = k + (n + 3) := by omega
      simp only [turns]
    · have asked (later : Instant) (s : Store) (ahead : Nat → Surroundings) :
          (QueueProgram.call (.incrementRetryCount target later)).run.alone s ahead =
            (.ok (s.incrementRetryCount target later).1, (s.incrementRetryCount target later).2,
              fun k => ahead (k + 1)) :=
        @QueueProgram.alone_call handler s ahead (.incrementRetryCount target later)
      simp only [QueueProgram.alone_now, asked, Nat.zero_add]
      rcases h : after.incrementRetryCount target (ahead (n + 2)).time with ⟨_ | record, last⟩
      · refine ⟨n + 2, n + 5, ?_⟩
        have turns (k : Nat) : k + 1 + 1 + 1 + n + 2 = k + (n + 5) := by omega
        simp only [h, QueueProgram.alone_throw, turns]
      · refine ⟨n + 2, n + 6, ?_⟩
        have turns (k : Nat) : k + 1 + 1 + 1 + 1 + n + 2 = k + (n + 6) := by omega
        simp only [h, QueueProgram.alone_bind, QueueProgram.alone_tell, QueueProgram.alone_pure,
          turns]

end DeadLetterQueue

end JobQueue
