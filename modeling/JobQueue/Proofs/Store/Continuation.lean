import JobQueue.Proofs.Store.Shape

/-!
# What lasts of a document

Calls change a document in what it says of its progress, and in nothing else. What was asked for
with the submission stays, what happened once is not taken back, and a document at its end is never
touched again.

* `Job.Continues`: one document is what another one may have become.
* `Change.continues`: every call that puts no job in leaves a continuation of each document.
* `Store.continues_perform` and `Store.change_of_mem_perform`: so for all documents of a store.
* `Store.continues_after` and `Store.attempts_le_after`: so does every run of calls, and it takes no
  attempt back.
-/

namespace JobQueue

/-! ## Continuations -/

/-- What a document may have become later on. -/
structure Job.Continues (first last : Job) : Prop where
  /-- A document at its end stays as it is. -/
  final : first.status.isTerminal = true → last = first
  id : last.id = first.id
  jobType : last.jobType = first.jobType
  payload : last.payload = first.payload
  maxAttempts : last.maxAttempts = first.maxAttempts
  priority : last.priority = first.priority
  visibilityTimeoutMs : last.visibilityTimeoutMs = first.visibilityTimeoutMs
  createdAt : last.createdAt = first.createdAt
  /-- The time of the start is set once. -/
  started : first.startedAt.isSome = true → last.startedAt = first.startedAt
  /-- The key is given back by failing, and not before. -/
  key : last.status ≠ .failed → last.idempotencyKey = first.idempotencyKey

namespace Job.Continues

variable {first middle last : Job}

theorem refl (job : Job) : job.Continues job :=
  ⟨fun _ => rfl, rfl, rfl, rfl, rfl, rfl, rfl, rfl, fun _ => rfl, fun _ => rfl⟩

/-- A document that has not failed had not failed before. -/
theorem not_failed (h : first.Continues last) (going : last.status ≠ .failed) :
    first.status ≠ .failed := by
  intro failed
  have same := h.final (by rw [failed]; rfl)
  exact going (same ▸ failed)

theorem trans (h : first.Continues middle) (h' : middle.Continues last) : first.Continues last where
  final terminal := by
    have same := h.final terminal
    rw [h'.final (same ▸ terminal), same]
  id := h'.id.trans h.id
  jobType := h'.jobType.trans h.jobType
  payload := h'.payload.trans h.payload
  maxAttempts := h'.maxAttempts.trans h.maxAttempts
  priority := h'.priority.trans h.priority
  visibilityTimeoutMs := h'.visibilityTimeoutMs.trans h.visibilityTimeoutMs
  createdAt := h'.createdAt.trans h.createdAt
  started set := by
    have kept := h.started set
    rw [h'.started (kept ▸ set), kept]
  key going := by rw [h'.key going, h.key (h'.not_failed going)]

end Job.Continues

/-! ## One call -/

/-- A document at its end is left alone by every call that does not put a job in its place. -/
theorem Change.eq_of_terminal {c : Call} {doc : Job} {new : Option Job}
    (h : Change c (some doc) new) (terminal : doc.status.isTerminal = true)
    (kept : ∀ job, c = .insert job → new ≠ some job) : new = some doc := by
  have unclaimable (now : Instant) : ¬doc.isClaimable now := by
    intro claimable
    rw [Job.status_of_isClaimable claimable] at terminal
    cases terminal
  have unheld (worker : String) : ¬doc.isLockedBy worker := by
    intro held
    rw [(Job.isLockedBy_iff.mp held).1] at terminal
    cases terminal
  have unexpired (now : Instant) : ¬doc.lockExpired now := by
    intro expired
    rw [Job.status_of_lockExpired expired] at terminal
    cases terminal
  cases h with
  | kept => rfl
  | inserted job => exact absurd rfl (kept job rfl)
  | claimed worker claimable => exact absurd claimable (unclaimable _)
  | renewed now held => exact absurd held (unheld _)
  | succeeded result now held => exact absurd held (unheld _)
  | retried error availableAt now held => exact absurd held (unheld _)
  | failed error now held => exact absurd held (unheld _)
  | requeued expired => exact absurd expired (unexpired _)
  | exhausted expired => exact absurd expired (unexpired _)

/-- A call that does not put a job in its place leaves a continuation of a document. -/
theorem Change.continues {c : Call} {old new : Job} (h : Change c (some old) (some new))
    (kept : c ≠ .insert new) : old.Continues new := by
  have final (terminal : old.status.isTerminal = true) : new = old := by
    refine Option.some.inj (h.eq_of_terminal terminal ?_)
    rintro job rfl same
    exact kept (congrArg Call.insert (Option.some.inj same).symm)
  cases h with
  | kept => exact .refl old
  | inserted => exact absurd rfl kept
  | @claimed _ now worker claimable =>
    have started (set : old.startedAt.isSome = true) :
        (Store.claimed old worker now).startedAt = old.startedAt := by
      obtain ⟨time, htime⟩ := Option.isSome_iff_exists.mp set
      simp [Store.claimed, htime]
    exact ⟨final, rfl, rfl, rfl, rfl, rfl, rfl, rfl, started, fun _ => rfl⟩
  | renewed | succeeded | retried | requeued =>
    exact ⟨final, rfl, rfl, rfl, rfl, rfl, rfl, rfl, fun _ => rfl, fun _ => rfl⟩
  | failed | exhausted =>
    exact ⟨final, rfl, rfl, rfl, rfl, rfl, rfl, rfl, fun _ => rfl, fun going => absurd rfl going⟩

/-- A document that failed was left alone, or has no key any more. -/
theorem Change.key_of_failed {c : Call} {old new : Job} (h : Change c (some old) (some new))
    (kept : c ≠ .insert new) (failed : new.status = .failed) :
    new = old ∨ new.idempotencyKey = none := by
  cases h with
  | kept => exact .inl rfl
  | inserted => exact absurd rfl kept
  | claimed | succeeded | retried | requeued => cases failed
  | renewed now held =>
    have processing := (Job.isLockedBy_iff.mp held).1
    rw [show (Store.renewed old now).status = old.status from rfl, processing] at failed
    cases failed
  | failed | exhausted => exact .inr rfl

/-- Attempts are counted by claims only. -/
theorem Change.attempts_eq {c : Call} {old new : Job} (h : Change c (some old) (some new))
    (kept : c ≠ .insert new) (noClaim : ∀ worker now, c ≠ .claimNext worker now) :
    new.attempts = old.attempts := by
  cases h with
  | inserted => exact absurd rfl kept
  | claimed worker => exact absurd rfl (noClaim worker _)
  | kept | renewed | succeeded | retried | failed | requeued | exhausted => rfl

namespace Store

variable {s : Store} {c : Call} {job : Job}

/-- A document that is there before a call goes on, if what the call puts in is new. -/
theorem continues_perform (unique : s.UniqueIds)
    (absent : ∀ job, c = .insert job → s.find? job.id = none) (stored : job ∈ s.jobs) :
    ∃ after ∈ (s.perform c).2.jobs, job.Continues after := by
  have found := find?_of_mem unique stored
  obtain ⟨after, later⟩ := find?_perform_some (c := c) unique found
  have change := change_perform unique c job.id
  rw [found, later] at change
  refine ⟨after, mem_of_find? later, change.continues ?_⟩
  rintro rfl
  have none := absent after rfl
  rw [id_of_find? later, found] at none
  cases none

/-- A document that is there after a call was put in by it, or is what the call made of one before. -/
theorem change_of_mem_perform (unique : s.UniqueIds) (stored : job ∈ (s.perform c).2.jobs) :
    c = .insert job ∨ c ≠ .insert job ∧ ∃ old ∈ s.jobs, Change c (some old) (some job) := by
  have change := change_perform unique c job.id
  rw [find?_of_mem (uniqueIds_perform unique c) stored] at change
  by_cases put : c = .insert job
  · exact .inl put
  · cases before : s.find? job.id with
    | none =>
      rw [before] at change
      exact absurd change.eq_insert put
    | some old =>
      rw [before] at change
      exact .inr ⟨put, old, mem_of_find? before, change⟩

end Store

/-! ## Runs of calls -/

namespace Store

variable {past rest : List Call} {id : Uuid} {first last : Job}

/-- A call that comes after a document was found puts no other one in its place. -/
theorem ne_insert_of_find? {calls : List Call} {c : Call} (distinct : DistinctIds (calls ++ [c]))
    (before : (empty.after calls).find? id = some first)
    (after : (empty.after (calls ++ [c])).find? id = some last) : c ≠ .insert last := by
  rintro rfl
  have absent := distinct.find?_eq_none
  rw [id_of_find? after, before] at absent
  cases absent

/-- What becomes of a document in a run that puts jobs in under identifiers of their own: it is
still there, as a continuation of what it was. -/
theorem continues_after (distinct : DistinctIds (past ++ rest))
    (found : (empty.after past).find? id = some first) :
    ∃ last, (empty.after (past ++ rest)).find? id = some last ∧ first.Continues last := by
  induction rest using List.reverseRecOn with
  | nil => exact ⟨first, by rwa [List.append_nil], .refl first⟩
  | append_singleton rest c ih =>
    rw [← List.append_assoc] at distinct ⊢
    obtain ⟨middle, hmiddle, continues⟩ := ih distinct.of_append
    have unique := uniqueIds_after uniqueIds_empty (past ++ rest)
    obtain ⟨last, hlast⟩ := find?_perform_some (c := c) unique hmiddle
    rw [← after_concat] at hlast
    have change := change_perform unique c id
    rw [← after_concat, hmiddle, hlast] at change
    have kept := ne_insert_of_find? distinct hmiddle hlast
    exact ⟨last, hlast, continues.trans (change.continues kept)⟩

/-- A claim counts one attempt more, as long as that does not overflow. -/
theorem attempts_claimed {job : Job} {n : Nat} (within : job.attempts.toNat ≤ n)
    (small : n + 1 < 2 ^ 32) (worker : String) (now : Instant) :
    (claimed job worker now).attempts.toNat = job.attempts.toNat + 1 := by
  show (job.attempts + 1).toNat = _
  rw [UInt32.toNat_add, UInt32.toNat_one]
  omega

/-- A run takes no attempt back from a document that was submitted, if it does not hand the job out
`2 ^ 32` times; and it counts no more attempts than it hands out. -/
theorem attempts_le_after (asNew : ∀ job, .insert job ∈ past → job.IsSubmission)
    (distinct : DistinctIds (past ++ rest)) (few : empty.claims (past ++ rest) id < 2 ^ 32)
    (found : (empty.after past).find? id = some first)
    (later : (empty.after (past ++ rest)).find? id = some last) :
    first.attempts ≤ last.attempts ∧ last.attempts.toNat ≤ empty.claims (past ++ rest) id := by
  induction rest using List.reverseRecOn generalizing last with
  | nil =>
    rw [List.append_nil] at few later ⊢
    rw [found, Option.some.injEq] at later
    rw [← later]
    exact ⟨UInt32.le_refl _, (counted_after asNew few found).within⟩
  | append_singleton rest c ih =>
    rw [← List.append_assoc] at distinct few later ⊢
    obtain ⟨middle, hmiddle, -⟩ := continues_after distinct.of_append found
    have unique := uniqueIds_after uniqueIds_empty (past ++ rest)
    rw [claims_concat] at few ⊢
    obtain ⟨above, within⟩ := ih distinct.of_append
      (Nat.lt_of_le_of_lt (Nat.le_add_right _ _) few) hmiddle
    -- what is left to see is that this call takes none back and counts one only if it claims
    have step (kept : last.attempts = middle.attempts) :
        first.attempts ≤ last.attempts ∧ last.attempts.toNat ≤ empty.claims (past ++ rest) id +
          if Entry.handsOut ⟨c, empty.after (past ++ rest)⟩ id then 1 else 0 :=
      ⟨kept ▸ above, kept ▸ Nat.le_trans within (Nat.le_add_right _ _)⟩
    by_cases claims : ∃ worker now, c = .claimNext worker now
    · obtain ⟨worker, now, rfl⟩ := claims
      rw [after_concat] at later
      have later : ((empty.after (past ++ rest)).claimNext worker now).2.find? id = some last :=
        later
      rcases claimNext_at unique worker now id with ⟨job, hjob, -, hanswer, hafter⟩ | ⟨-, hafter⟩
      · have handed := handsOut_of_claimNext hanswer
        rw [claimed_id, id_of_find? hjob] at handed
        rw [if_pos handed] at few ⊢
        rw [hmiddle, Option.some.injEq] at hjob
        rw [hafter, Option.some.injEq, ← hjob] at later
        have counted := attempts_claimed within few worker now
        rw [later] at counted
        rw [UInt32.le_iff_toNat_le] at above ⊢
        omega
      · rw [hafter, hmiddle, Option.some.injEq] at later
        exact step (later ▸ rfl)
    · have change := change_perform unique c id
      rw [← after_concat, hmiddle, later] at change
      have kept := ne_insert_of_find? distinct hmiddle later
      exact step (change.attempts_eq kept fun worker now h => claims ⟨worker, now, h⟩)

end Store

end JobQueue
