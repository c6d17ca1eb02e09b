import JobQueue.Proofs.Store.Continuation
import JobQueue.Proofs.Store.Keys

/-!
# Who holds a key

A key is refused while its holder waits, is being processed or has succeeded, and it is free again
from the very call by which its holder fails. No call of anybody can break this, as the index says
after every call what the documents say.

* `Store.indexed_after`: the index is exact after every run.
* `Indexed.insert_of_carried` and `Indexed.insert_of_free`: a job is refused exactly when a document
  carries its key.
* `Store.key_after` and `Store.free_of_failing`: a document carries its key until it fails, and right
  behind that no document does.
* `Store.key_index`: the index, and what it means for the jobs that are put in.
-/

namespace JobQueue

/-! ## Keys and one call -/

/-- The call by which a document fails takes its key away, and puts no job in. -/
theorem Change.of_failing {c : Call} {old new : Job} (h : Change c (some old) (some new))
    (kept : c ≠ .insert new) (going : old.status ≠ .failed) (failed : new.status = .failed) :
    new.idempotencyKey = none ∧ ∀ job, c ≠ .insert job := by
  cases h with
  | kept => exact absurd failed going
  | inserted => exact absurd rfl kept
  | @renewed _ worker now held =>
    have processing : (Store.renewed old now).status = .processing :=
      (Job.isLockedBy_iff.mp held).1
    rw [failed] at processing
    cases processing
  | claimed | succeeded | retried | requeued => cases failed
  | failed | exhausted => exact ⟨rfl, fun _ => Call.noConfusion⟩

/-- A key that a document carries after a call that puts no job in, it carried before. -/
theorem Change.carried {c : Call} {old : Option Job} {new : Job} {key : String}
    (h : Change c old (some new)) (noInsert : ∀ job, c ≠ .insert job)
    (carries : new.idempotencyKey = some key) :
    ∃ doc, old = some doc ∧ doc.idempotencyKey = some key := by
  cases h with
  | kept => exact ⟨new, rfl, carries⟩
  | inserted => exact absurd rfl (noInsert new)
  | @claimed doc | @renewed doc | @succeeded doc | @retried doc | @requeued doc =>
    exact ⟨doc, rfl, carries⟩
  | failed | exhausted => cases carries

namespace Store

variable {s : Store} {calls : List Call} {job : Job} {key : String}

/-! ## Keys and one store -/

namespace Indexed

variable (h : s.Indexed)

include h

/-- No two documents carry the same key. -/
theorem eq_of_key (unique : s.UniqueIds) {a b : Job} (ha : a ∈ s.jobs) (hb : b ∈ s.jobs)
    (hkey : a.idempotencyKey = some key) (hkey' : b.idempotencyKey = some key) : a = b := by
  have holds {doc : Job} (hdoc : doc ∈ s.jobs) (carries : doc.idempotencyKey = some key) :
      s.holder? key = some doc.id := by
    rw [h.holder?_eq_some_iff, keyOf?, find?_of_mem unique hdoc]
    exact carries
  have same : a.id = b.id := Option.some.inj ((holds ha hkey).symm.trans (holds hb hkey'))
  exact List.inj_on_of_nodup_map unique ha hb same

/-- A job is refused, and changes nothing, while a document carries its key. -/
theorem insert_of_carried (unique : s.UniqueIds) {holder : Job} (hholder : holder ∈ s.jobs)
    (carries : holder.idempotencyKey = some key) (hkey : job.idempotencyKey = some key) :
    s.insert job = (.error (.conflict job.jobType key), s) := by
  have taken := (h.isSome_holder?_iff unique).mpr ⟨holder, hholder, carries⟩
  rw [insert_of_key hkey, if_pos taken]

/-- A job is put in when no document carries its key. -/
theorem insert_of_free (unique : s.UniqueIds)
    (free : ∀ other ∈ s.jobs, other.idempotencyKey ≠ some key)
    (hkey : job.idempotencyKey = some key) : (s.insert job).1 = .ok job := by
  have untaken : ¬(s.holder? key).isSome = true := by
    rw [h.isSome_holder?_iff unique]
    rintro ⟨other, hother, carries⟩
    exact free other hother carries
  rw [insert_of_key hkey, if_neg untaken]

end Indexed

/-! ## Keys along a run -/

/-- The index is exact after every run that puts jobs in under identifiers of their own. -/
theorem indexed_after (distinct : DistinctIds calls) : (empty.after calls).Indexed := by
  induction calls using List.reverseRecOn with
  | nil => exact indexed_empty
  | append_singleton calls c ih =>
    rw [after_concat]
    refine indexed_perform (ih distinct.of_append) (uniqueIds_after uniqueIds_empty calls) c ?_
    rintro job rfl
    exact distinct.find?_eq_none

/-- A document carries its key as long as it has not failed. -/
theorem key_after {past rest : List Call} {id : Uuid} {first last : Job}
    (distinct : DistinctIds (past ++ rest)) (found : (empty.after past).find? id = some first)
    (later : (empty.after (past ++ rest)).find? id = some last) (going : last.status ≠ .failed) :
    last.idempotencyKey = first.idempotencyKey := by
  obtain ⟨other, hother, continues⟩ := continues_after distinct found
  rw [later, Option.some.injEq] at hother
  rw [← hother] at continues
  exact continues.key going

/-- No document carries the key of one that has just failed. -/
theorem free_of_failing {past : List Call} {c : Call} {id : Uuid} {first last : Job}
    (distinct : DistinctIds (past ++ [c])) (found : (empty.after past).find? id = some first)
    (carried : first.idempotencyKey = some key) (going : first.status ≠ .failed)
    (later : (empty.after (past ++ [c])).find? id = some last) (failed : last.status = .failed) :
    ∀ other ∈ (empty.after (past ++ [c])).jobs, other.idempotencyKey ≠ some key := by
  have uniqueBefore := uniqueIds_after uniqueIds_empty past
  have unique := uniqueIds_after uniqueIds_empty (past ++ [c])
  have change := change_perform uniqueBefore c id
  rw [← after_concat, found, later] at change
  have kept := ne_insert_of_find? distinct found later
  obtain ⟨lost, noInsert⟩ := change.of_failing kept going failed
  intro other hother carries
  -- another document with the key would have had it before, beside the one that failed
  have changeOther := change_perform uniqueBefore c other.id
  rw [← after_concat, find?_of_mem unique hother] at changeOther
  obtain ⟨doc, hdoc, hcarried⟩ := changeOther.carried noInsert carries
  have same : doc = first :=
    (indexed_after distinct.of_append).eq_of_key uniqueBefore (mem_of_find? hdoc)
      (mem_of_find? found) hcarried carried
  have sameId : other.id = id := by
    rw [← id_of_find? hdoc, same, id_of_find? found]
  have sameDoc := find?_of_mem unique hother
  rw [sameId, later, Option.some.injEq] at sameDoc
  rw [← sameDoc, lost] at carries
  cases carries

/-- **The index of keys.** After every run of calls, whatever documents it put in under identifiers
of their own: the index gives a key to a job exactly when the document of the job carries it; no two
documents carry one key; a job is refused while one that ever carried its key has not failed; and
it is put in as soon as the job that carried its key has failed. -/
theorem key_index (distinct : DistinctIds calls) :
    let s := empty.after calls
    (∀ key id, s.holder? key = some id ↔
      ∃ job, s.find? id = some job ∧ job.idempotencyKey = some key) ∧
    (∀ a ∈ s.jobs, ∀ b ∈ s.jobs, ∀ key,
      a.idempotencyKey = some key → b.idempotencyKey = some key → a = b) ∧
    (∀ past rest, calls = past ++ rest → ∀ id first last key,
      (empty.after past).find? id = some first → first.idempotencyKey = some key →
      s.find? id = some last → last.status ≠ .failed →
      ∀ job, job.idempotencyKey = some key →
        s.insert job = (.error (.conflict job.jobType key), s)) ∧
    (∀ past c, calls = past ++ [c] → ∀ id first last key,
      (empty.after past).find? id = some first → first.idempotencyKey = some key →
      first.status ≠ .failed → s.find? id = some last → last.status = .failed →
      ∀ job, job.idempotencyKey = some key → (s.insert job).1 = .ok job) := by
  intro s
  have unique : s.UniqueIds := uniqueIds_after uniqueIds_empty calls
  have indexed : s.Indexed := indexed_after distinct
  refine ⟨fun key id => ?_, fun a ha b hb key => indexed.eq_of_key unique ha hb, ?_, ?_⟩
  · rw [indexed.holder?_eq_some_iff, keyOf?, Option.bind_eq_some_iff]
  · intro past rest split id first last key hfirst carried hlast going job hkey
    have carries : last.idempotencyKey = some key := by
      rw [key_after (split ▸ distinct) hfirst (split ▸ hlast) going, carried]
    exact indexed.insert_of_carried unique (mem_of_find? hlast) carries hkey
  · intro past c split id first last key hfirst carried going hlast failed job hkey
    subst split
    exact indexed.insert_of_free unique
      (free_of_failing distinct hfirst carried going hlast failed) hkey

/-! ### Two letters that are lost together

Two letters with keys of their own are claimed, each on its only attempt, and both locks run out
before anybody looks.
-/

namespace LostLetters

/-- A letter under an identifier, with a key. -/
def letter (n : Nat) (key : String) : Job :=
  { Job.queued (.ofNat n) "mail" (.object []) .epoch with
    maxAttempts := 1
    idempotencyKey := some key }

/-- Both letters are under way. -/
def underWay : List Call :=
  [.insert (letter 1 "a"), .insert (letter 2 "b"), .claimNext "w" .epoch, .claimNext "w" .epoch]

/-- One pass fails both. -/
def lost : List Call := underWay ++ [.releaseStuck Relay.evening]

end LostLetters

/-- The second key is refused while its letter is under way, and both are free after the pass. -/
theorem key_index_letters :
    ((empty.after LostLetters.underWay).insert (LostLetters.letter 3 "b")).1 =
      .error (.conflict "mail" "b") ∧
    ((empty.after LostLetters.lost).insert (LostLetters.letter 3 "a")).1 =
      .ok (LostLetters.letter 3 "a") ∧
    ((empty.after LostLetters.lost).insert (LostLetters.letter 3 "b")).1 =
      .ok (LostLetters.letter 3 "b") := by
  have distinct : DistinctIds LostLetters.underWay := by decide
  have distinctLost : DistinctIds LostLetters.lost := by decide
  obtain ⟨-, -, refused, -⟩ := key_index distinct
  obtain ⟨-, -, -, freed⟩ := key_index distinctLost
  refine ⟨?_, ?_, ?_⟩
  · rw [refused _ [] (List.append_nil _).symm (.ofNat 2) _ _ "b" rfl rfl rfl (by decide) _ rfl]
    rfl
  · exact freed _ _ rfl (.ofNat 1) _ _ "a" rfl rfl (by decide) rfl rfl _ rfl
  · exact freed _ _ rfl (.ofNat 2) _ _ "b" rfl rfl (by decide) rfl rfl _ rfl

end Store

end JobQueue
