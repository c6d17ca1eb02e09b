import JobQueue.Proofs.Interleaving.Filing

/-!
# When a record can be submitted again

Whatever was done to a store that was empty at first, a record in it can be submitted again exactly
when no job of its type and payload is there that has not failed. That rests on the whole past of
the store: the record passes every check since its job did, the key that is made of it is the one
that its job carried, and the failure of the job gave that key free.

* `Store.HoldsTwin`: a job with the type and payload of a record is there that has not failed. The
  key of the record is taken exactly then (`Store.InOrder.taken_iff`).
* `Store.Renews` and `DeadLetterQueue.RetryVerdict`: what an accepted submission of a record makes
  of a store, and how each one is answered.
* `DeadLetterQueue.retry_verdict`: so is each one that nobody disturbs, in every attained store.
-/

namespace JobQueue

variable {handler : Type}

/-! ## Twins of a record -/

namespace Store

/-- Whether a job of the type and payload of a record is there that has not failed. -/
def HoldsTwin (s : Store) (record : DeadLetter) : Prop :=
  ∃ job ∈ s.jobs, job.status ≠ .failed ∧ job.jobType = record.jobType ∧
    job.payload.alike record.payload = true

/-- The texts that the keys of the jobs were made of. -/
def texts (s : Store) : List String :=
  s.jobs.map fun job => fingerprintText job.jobType job.payload

variable {s : Store} {record : DeadLetter} {target : Uuid}

/-- What is known of a store in order, whose payloads are proper. -/
theorem InOrder.sound (h : s.InOrder) (proper : ∀ job ∈ s.jobs, job.payload.isProper = true) :
    Sound (s.jobs.map Job.id) s.texts s where
  unique := h.unique
  indexed := h.indexed
  drawn _ stored := List.mem_map_of_mem stored
  accounted job stored := ⟨(h.admitted job stored).key, proper job stored, List.mem_map_of_mem stored⟩
  records record listed := by
    obtain ⟨job, stored, copies⟩ := h.records record listed
    rw [copies.payload]
    exact proper job stored

/-- **The key of a record is taken** exactly while a twin of it is there. -/
theorem InOrder.taken_iff (h : s.InOrder) (proper : ∀ job ∈ s.jobs, job.payload.isProper = true)
    (noCollision : NoCollision s.texts) (listed : record ∈ s.deadLetters) :
    (s.holder? (fingerprint record.jobType record.payload)).isSome = true ↔ s.HoldsTwin record := by
  have sound := h.sound proper
  obtain ⟨job, stored, copies⟩ := h.records record listed
  have trimmed : Text.trim record.jobType = record.jobType := by
    rw [copies.jobType, (h.admitted job stored).trimmed]
  have hashed : fingerprintText (Text.trim record.jobType) record.payload ∈ s.texts := by
    rw [trimmed, copies.jobType, copies.payload]
    exact List.mem_map_of_mem stored
  have taken := sound.taken_iff (r := DeadLetterQueue.resubmission record)
    (sound.records record listed) hashed noCollision
  unfold HoldsEqual at taken
  dsimp only [DeadLetterQueue.resubmission] at taken
  rw [trimmed] at taken
  exact taken

/-! ## What becomes of the store -/

/-- What a store becomes when a record of it is submitted again under an identifier and is then
counted on: one new job is queued behind the others, with the content of the record; its key is
taken; and of the records only this one changes. -/
structure Renews (s : Store) (record : DeadLetter) (id : Uuid) (counted : DeadLetter)
    (after : Store) : Prop where
  jobs : ∃ job, after.jobs = s.jobs ++ [job] ∧ job.id = id ∧ job.status = .queued ∧
    job.attempts = 0 ∧ job.jobType = record.jobType ∧ job.payload = record.payload ∧
    job.priority = record.priority ∧ job.maxAttempts = record.maxAttempts
  keys : after.keys = (fingerprint record.jobType record.payload, id) :: s.keys
  records : after.deadLetters.map DeadLetter.id = s.deadLetters.map DeadLetter.id
  own : after.findDeadLetter? record.id = some counted
  others : ∀ other, other ≠ record.id → after.findDeadLetter? other = s.findDeadLetter? other

/-- Putting a job in behind the others and counting on a record renews the record. -/
theorem renews_of_put (found : s.findDeadLetter? target = some record) {job : Job}
    (content : job.status = .queued ∧ job.attempts = 0 ∧ job.jobType = record.jobType ∧
      job.payload = record.payload ∧ job.priority = record.priority ∧
      job.maxAttempts = record.maxAttempts) (later : Instant) :
    s.Renews record job.id (retriedRecord record later)
      ⟨s.jobs ++ [job], (fingerprint record.jobType record.payload, job.id) :: s.keys,
        putDeadLetter (retriedRecord record later) s.deadLetters⟩ where
  jobs := ⟨job, rfl, rfl, content⟩
  keys := rfl
  records := map_putBy_of_present ⟨record, List.mem_of_find?_eq_some found, rfl⟩
  own := (find?_putDeadLetter _ _ _).trans (if_pos rfl)
  others _ differs := (find?_putDeadLetter _ _ _).trans (if_neg (Ne.symm differs))

end Store

/-! ## How a record is submitted again -/

namespace DeadLetterQueue

open Store

variable {s : Store} {record : DeadLetter} {target id : Uuid}

/-- The submission of a record that is listed goes straight to the store. -/
theorem submitted_resubmission (h : s.InOrder) (listed : record ∈ s.deadLetters) (c : Client)
    (id : Uuid) (now : Instant) :
    c.submitted (resubmission record) s id now =
      s.insert (c.stamp ⟨record.jobType, record.payload, record.maxAttempts, record.priority⟩ id
        now) := by
  obtain ⟨job, stored, copies⟩ := h.records record listed
  rw [Client.submitted, check_resubmission copies (h.admitted job stored)]

/-- While its key is taken, a record is refused, and the store stays as it is. -/
theorem retried_of_taken (h : s.InOrder) (found : s.findDeadLetter? target = some record)
    (taken : (s.holder? (fingerprint record.jobType record.payload)).isSome = true)
    (q : DeadLetterQueue) (id : Uuid) (now later : Instant) :
    q.retried target s id now later =
      (.error (.conflict record.jobType (fingerprint record.jobType record.payload)), s) := by
  have listed : record ∈ s.deadLetters := List.mem_of_find?_eq_some found
  rw [retried, found]
  dsimp only
  rw [submitted_resubmission h listed, insert_of_key rfl, if_pos taken]
  rfl

/-- While its key is free, a record becomes a new job, and is counted on. -/
theorem retried_of_free (h : s.InOrder) (found : s.findDeadLetter? target = some record)
    (free : ¬(s.holder? (fingerprint record.jobType record.payload)).isSome = true)
    (fresh : s.find? id = none) (q : DeadLetterQueue) (now later : Instant) :
    ∃ after, q.retried target s id now later = (.ok ⟨retriedRecord record later, id⟩, after) ∧
      s.Renews record id (retriedRecord record later) after := by
  have listed : record ∈ s.deadLetters := List.mem_of_find?_eq_some found
  generalize hjob : q.client.stamp
    ⟨record.jobType, record.payload, record.maxAttempts, record.priority⟩ id now = job
  have hid : job.id = id := by rw [← hjob]; rfl
  have key : job.idempotencyKey = some (fingerprint record.jobType record.payload) := by
    rw [← hjob]
    rfl
  have content : job.status = .queued ∧ job.attempts = 0 ∧ job.jobType = record.jobType ∧
      job.payload = record.payload ∧ job.priority = record.priority ∧
      job.maxAttempts = record.maxAttempts := by
    rw [← hjob]
    exact ⟨rfl, rfl, rfl, rfl, rfl, rfl⟩
  -- the job is put in behind the others, and the records are as they were
  obtain ⟨middle, hmiddle⟩ : ∃ middle : Store, middle = ⟨s.jobs ++ [job],
    (fingerprint record.jobType record.payload, job.id) :: s.keys, s.deadLetters⟩ := ⟨_, rfl⟩
  have put : q.client.submitted (resubmission record) s id now = (.ok job, middle) := by
    have absent : ∀ other ∈ s.jobs, other.id ≠ job.id := hid ▸ find?_eq_none_iff.mp fresh
    rw [submitted_resubmission h listed, hjob, insert_of_key key, if_neg free,
      putJob_of_absent absent, hmiddle]
  have still : middle.findDeadLetter? target = some record := by rw [hmiddle]; exact found
  refine ⟨_, ?_, hid ▸ renews_of_put found content later⟩
  rw [retried, found]
  dsimp only
  rw [put]
  dsimp only
  rw [incrementRetryCount_of_found still, hmiddle, hid]

/-! ## The verdict -/

/-- How a new submission of a record is answered, if it reads these times and draws this identifier,
and what it makes of the store. -/
structure RetryVerdict (target : Uuid) (w : Occasion) (s : Store)
    (answer : Except QueueError Resubmission) (after : Store) : Prop where
  /-- The record is not found exactly when there is none. -/
  notFound : answer = .error (.deadLetterNotFound target) ↔ s.findDeadLetter? target = none
  /-- It is refused as a duplicate exactly when it has a twin. -/
  conflict : (∃ jobType key, answer = .error (.conflict jobType key)) ↔
    ∃ record, s.findDeadLetter? target = some record ∧ s.HoldsTwin record
  /-- Else it becomes a new job, and is counted on. -/
  accepted : ∀ record, s.findDeadLetter? target = some record → ¬s.HoldsTwin record →
    ∃ counted, answer = .ok ⟨counted, w.id⟩ ∧ s.Renews record w.id counted after ∧
      (∃ n, counted =
        { record with
          retryCount := record.retryCount + 1
          lastRetriedAt := some (w.clock n) }) ∧
      (record.retryCount.toNat < 2 ^ 32 - 1 →
        counted.retryCount.toNat = record.retryCount.toNat + 1)
  /-- An error leaves the store as it was, with all its jobs, keys and records. -/
  unchanged : ∀ e, answer = .error e → after = s

/-- A count that is not at its end goes up by one. -/
theorem toNat_retryCount (record : DeadLetter) (now : Instant)
    (small : record.retryCount.toNat < 2 ^ 32 - 1) :
    (retriedRecord record now).retryCount.toNat = record.retryCount.toNat + 1 := by
  show (record.retryCount + 1).toNat = _
  rw [UInt32.toNat_add, UInt32.toNat_one]
  omega

/-- **When a record can be submitted again.** In every store that submissions, records of its own
jobs and any other calls made of the empty one, a record that nobody disturbs is refused only while
a twin of it is there that has not failed, and else becomes a new job with its content. Taken for
granted are that payloads are proper values, that the identifier drawn is new, and that no two of
the texts that keys were made of have one digest. -/
theorem retry_verdict {s : Store} (attained : s.Attained)
    (proper : ∀ job ∈ s.jobs, job.payload.isProper = true) (noCollision : NoCollision s.texts)
    {w : Occasion} (fresh : s.find? w.id = none) (q : DeadLetterQueue) (target : Uuid) :
    let ended := (q.retry target : QueueProgram handler Resubmission).run.alone s w.ahead
    RetryVerdict target w s ended.1 ended.2.1 := by
  intro ended
  have order := attained.inOrder
  obtain ⟨m, n, alone⟩ := @alone_retry handler q target s w.ahead
  have ended_eq : ended = _ := alone
  rw [ended_eq, Occasion.id_ahead, Occasion.time_ahead, Occasion.time_ahead]
  dsimp only
  cases found : s.findDeadLetter? target with
  | none =>
    have answer : q.retried target s w.id (w.clock 3) (w.clock m) =
        (.error (.deadLetterNotFound target), s) := by rw [retried, found]
    rw [answer]
    refine ⟨iff_of_true rfl found, iff_of_false (by simp) (by simp [found]), ?_, fun _ _ => rfl⟩
    intro record there
    rw [found] at there
    cases there
  | some record =>
    have listed : record ∈ s.deadLetters := List.mem_of_find?_eq_some found
    have taken := order.taken_iff proper noCollision listed
    by_cases twin : s.HoldsTwin record
    · rw [retried_of_taken order found (taken.mpr twin)]
      refine ⟨iff_of_false (by simp) (by simp [found]), ?_, ?_, fun _ _ => rfl⟩
      · exact iff_of_true ⟨_, _, rfl⟩ ⟨record, found, twin⟩
      · intro other there noTwin
        rw [found, Option.some.injEq] at there
        subst there
        exact absurd twin noTwin
    · obtain ⟨after, answer, renews⟩ :=
        retried_of_free order found (taken.not.mpr twin) fresh q (w.clock 3) (w.clock m)
      rw [answer]
      refine ⟨iff_of_false (by simp) (by simp [found]), iff_of_false (by simp) ?_, ?_, ?_⟩
      · rintro ⟨other, there, hasTwin⟩
        rw [found, Option.some.injEq] at there
        subst there
        exact twin hasTwin
      · intro other there _
        rw [found, Option.some.injEq] at there
        subst there
        exact ⟨_, rfl, renews, ⟨m, rfl⟩, toNat_retryCount record (w.clock m)⟩
      · intro e failed
        cases failed

/-- The record that the late workers left is submitted again: the job that failed is no twin. -/
theorem retry_verdict_late :
    ∃ counted, ((retry ⟨⟨.standard, false⟩⟩ (.ofNat 2) :
        QueueProgram Unit Resubmission).run.alone LateWorker.final.store
        (Occasion.mk (.ofNat 3) fun _ => LateWorker.evening).ahead).1 = .ok ⟨counted, .ofNat 3⟩ ∧
      counted.lastRetriedAt = some LateWorker.evening := by
  have states : LateWorker.final.store.jobs.map
      (fun job => (job.status, job.payload.isProper)) = [(.failed, true)] := by
    decide +kernel
  obtain ⟨job, jobs, state⟩ := List.map_eq_singleton_iff.mp states
  obtain ⟨failed, proper⟩ := Prod.mk.inj state
  have listed : (LateWorker.final.store.findDeadLetter? (.ofNat 2)).isSome = true := rfl
  obtain ⟨record, found⟩ := Option.isSome_iff_exists.mp listed
  have noCollision : NoCollision LateWorker.final.store.texts := by
    intro a ha b hb _
    rw [Store.texts, jobs, List.map_singleton, List.mem_singleton] at ha hb
    rw [ha, hb]
  have verdict := @retry_verdict Unit _ (System.attained LateWorker.run_eq)
    (by simpa [jobs] using proper) noCollision ⟨.ofNat 3, fun _ => LateWorker.evening⟩ rfl
    ⟨⟨.standard, false⟩⟩ (.ofNat 2)
  have noTwin : ¬LateWorker.final.store.HoldsTwin record := by
    rintro ⟨other, stored, going, -⟩
    rw [jobs, List.mem_singleton] at stored
    exact going (stored ▸ failed)
  obtain ⟨counted, answer, -, ⟨n, rfl⟩, -⟩ := verdict.accepted record found noTwin
  exact ⟨_, answer, rfl⟩

end DeadLetterQueue

end JobQueue
