import JobQueue.Proofs.Client.Duplicates
import JobQueue.Proofs.Program.Phase

/-!
# What a store is filled with

A store that is empty at first is filled by submissions, each of which passed the check of some
client, and by records of its own jobs. Whatever else is called on it, a document keeps the content
that was let through, it keeps the key that was made of it until the job fails, and a record has the
content of a document that is still there. So a record passes the check of every client again, as
the very submission that its job came from.

* `Store.Attained`: the stores that are filled so.
* `Job.IsAdmitted`: what is known of a document; of a record it is `DeadLetter.Copies`.
* `Store.InOrder`: what is known of a store. One call keeps it (`Store.InOrder.perform`), and so
  every attained store is in order (`Store.Attained.inOrder`).
* `DeadLetterQueue.check_resubmission`: a record passes the check.
-/

namespace JobQueue

/-- A store as submissions under new identifiers, records of its own jobs and any other calls make
it of the empty one. A record may be made of a job as it is or as it once was. -/
inductive Store.Attained : Store → Prop where
  | empty : Attained .empty
  | submitted {s : Store} (before : Attained s) {c : Client} {r : NewJob} {a : Client.Admitted}
      (admitted : c.check r = .ok a) {id : Uuid} (absent : s.find? id = none) (now : Instant) :
      Attained (s.perform (.insert (c.stamp a id now))).2
  | recorded {s : Store} (before : Attained s) {job doc : Job} (stored : doc ∈ s.jobs)
      (once : job.Continues doc) (id : Uuid) (now : Instant) :
      Attained (s.perform (.insertDeadLetter (.ofJob id job now))).2
  | called {s : Store} (before : Attained s) {c : Call} (other : c.putsNew = false) :
      Attained (s.perform c).2

/-! ## Documents -/

/-- A document whose content a check would let through as it is, with the key that is made of it
until the job fails. -/
structure Job.IsAdmitted (job : Job) : Prop where
  trimmed : Text.trim job.jobType = job.jobType
  named : job.jobType ≠ ""
  object : job.payload.isObject = true
  attempts : job.maxAttempts ≠ 0
  key : job.idempotencyKey =
    if job.status = .failed then none else some (fingerprint job.jobType job.payload)

/-- What was let through stays as it was. -/
theorem Change.isAdmitted {c : Call} {old new : Job} (h : Change c (some old) (some new))
    (kept : c ≠ .insert new) (admitted : old.IsAdmitted) : new.IsAdmitted := by
  have continues := h.continues kept
  constructor
  case trimmed => rw [continues.jobType, admitted.trimmed]
  case named =>
    rw [continues.jobType]
    exact admitted.named
  case object => rw [continues.payload, admitted.object]
  case attempts =>
    rw [continues.maxAttempts]
    exact admitted.attempts
  case key => exact h.key_of_content kept admitted.key

namespace Client

variable {c : Client} {r : NewJob} {a : Admitted}

/-- What a check lets through has a trimmed type, an object for its payload and attempts to make. -/
theorem isAdmitted_stamp (admitted : c.check r = .ok a) (id : Uuid) (now : Instant) :
    (c.stamp a id now).IsAdmitted := by
  rcases c.check_cases r with ⟨-, why, refused | refused⟩ | ⟨valid, passed⟩
  · rw [refused] at admitted
    cases admitted
  · rw [refused] at admitted
    cases admitted
  · rw [passed, Except.ok.injEq] at admitted
    subst admitted
    unfold Refuses at valid
    rw [not_or, not_or] at valid
    obtain ⟨named, object, attempts⟩ := valid
    rw [Bool.not_eq_false] at object
    exact ⟨Text.trim_trim r.jobType, named, object, attempts, rfl⟩

end Client

/-! ## Records -/

/-- A record of a job has the content of what becomes of the job. -/
theorem DeadLetter.Copies.continues {record : DeadLetter} {first last : Job}
    (h : record.Copies first) (on : first.Continues last) : record.Copies last where
  jobId := h.jobId.trans on.id.symm
  jobType := h.jobType.trans on.jobType.symm
  payload := h.payload.trans on.payload.symm
  priority := h.priority.trans on.priority.symm
  maxAttempts := h.maxAttempts.trans on.maxAttempts.symm

/-- **A record passes the check** of every client as it is, if it has the content of a job that
did. -/
theorem DeadLetterQueue.check_resubmission {record : DeadLetter} {job : Job}
    (copies : record.Copies job) (admitted : job.IsAdmitted) (c : Client) :
    c.check (resubmission record) =
      .ok ⟨record.jobType, record.payload, record.maxAttempts, record.priority⟩ := by
  have trimmed : Text.trim record.jobType = record.jobType := by
    rw [copies.jobType, admitted.trimmed]
  have valid : ¬c.Refuses (resubmission record) := by
    rintro (unnamed | noObject | noAttempt)
    · have unnamed : Text.trim record.jobType = "" := unnamed
      rw [trimmed, copies.jobType] at unnamed
      exact admitted.named unnamed
    · have noObject : record.payload.isObject = false := noObject
      rw [copies.payload, admitted.object] at noObject
      cases noObject
    · have noAttempt : record.maxAttempts = 0 := noAttempt
      rw [copies.maxAttempts] at noAttempt
      exact admitted.attempts noAttempt
  obtain ⟨refused, -⟩ | ⟨-, passed⟩ := c.check_cases (resubmission record)
  · exact absurd refused valid
  · rw [passed]
    show Except.ok (Client.Admitted.mk (Text.trim record.jobType) _ _ _) = _
    rw [trimmed]
    rfl

/-! ## Stores -/

namespace Store

/-- What is known of a store that was filled by submissions and by records of its own jobs. -/
structure InOrder (s : Store) : Prop where
  unique : s.UniqueIds
  indexed : s.Indexed
  admitted : ∀ job ∈ s.jobs, job.IsAdmitted
  records : ∀ record ∈ s.deadLetters, ∃ job ∈ s.jobs, record.Copies job

variable {s : Store}

theorem inOrder_empty : empty.InOrder where
  unique := uniqueIds_empty
  indexed := indexed_empty
  admitted _ listed := nomatch listed
  records _ listed := nomatch listed

/-- A call keeps a store in order, if what it puts in is a new submission or a record of a job that
is there. -/
theorem InOrder.perform (h : s.InOrder) {c : Call}
    (put : ∀ job, c = .insert job → s.find? job.id = none ∧ job.IsAdmitted)
    (record : ∀ record, c = .insertDeadLetter record → ∃ job ∈ s.jobs, record.Copies job) :
    (s.perform c).2.InOrder where
  unique := uniqueIds_perform h.unique c
  indexed := indexed_perform h.indexed h.unique c fun job hc => (put job hc).1
  admitted := by
    intro job stored
    rcases change_of_mem_perform h.unique stored with hc | ⟨kept, old, before, change⟩
    · exact (put job hc).2
    · exact change.isAdmitted kept (h.admitted old before)
  records := by
    -- the job of a record that was there before goes on
    have on {r : DeadLetter} (had : ∃ job ∈ s.jobs, r.Copies job) :
        ∃ job ∈ (s.perform c).2.jobs, r.Copies job := by
      obtain ⟨job, stored, copies⟩ := had
      obtain ⟨after, later, continues⟩ :=
        continues_perform (c := c) h.unique (fun job hc => (put job hc).1) stored
      exact ⟨after, later, copies.continues continues⟩
    intro r listed
    rcases origin_of_mem_perform listed with hc | ⟨old, before, count, time, rfl⟩
    · exact on (record r hc)
    · obtain ⟨job, later, copies⟩ := on (h.records old before)
      exact ⟨job, later, copies.jobId, copies.jobType, copies.payload, copies.priority,
        copies.maxAttempts⟩

/-- **Every attained store is in order.** -/
theorem Attained.inOrder (h : s.Attained) : s.InOrder := by
  induction h with
  | empty => exact inOrder_empty
  | @submitted s _ c r a admitted id absent now ih =>
    refine ih.perform (fun job hc => ?_) fun record hc => by cases hc
    cases hc
    exact ⟨absent, Client.isAdmitted_stamp admitted id now⟩
  | @recorded s _ job doc stored once id now ih =>
    refine ih.perform (fun job hc => by cases hc) fun record hc => ?_
    cases hc
    exact ⟨doc, stored, (DeadLetter.isOf_ofJob id job now).toCopies.continues once⟩
  | @called s _ c other ih =>
    refine ih.perform (fun job hc => ?_) fun record hc => ?_
    · rw [hc] at other
      cases other
    · rw [hc] at other
      cases other

end Store

end JobQueue
