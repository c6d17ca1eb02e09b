import JobQueue.Proofs.Store.Change

/-!
# The index of idempotency keys

The index is a second copy of what the documents say of their keys, and each operation that gives
a key away or takes it back keeps it by hand.

* `Store.Indexed`: the index gives a key to a job exactly when the document of the job carries it.
* `Store.indexed_perform`: every call keeps the index so, as long as a job that is put in is new.
* `Store.isSome_holder?_iff`: a key is taken exactly when a document carries it.
-/

namespace JobQueue

/-- Whether a call may give a key away or take it back. -/
def Call.movesKeys : Call → Bool
  | .insert _ | .markFailed _ _ _ _ | .releaseStuck _ => true
  | _ => false

/-- What the other calls make of a document carries the key that it carried. -/
theorem Change.key_eq {c : Call} {old new : Option Job} (h : Change c old new)
    (keeps : c.movesKeys = false) :
    new.bind Job.idempotencyKey = old.bind Job.idempotencyKey := by
  cases h with
  | inserted | failed | requeued | exhausted => simp [Call.movesKeys] at keeps
  | _ => rfl

namespace Store

variable {s : Store} {job : Job} {id : Uuid} {key : String} {now : Instant}

/-- The key that the document under an identifier carries. -/
def keyOf? (s : Store) (id : Uuid) : Option String := (s.find? id).bind Job.idempotencyKey

/-- The index gives each key to one job at most, and says what the documents say. -/
structure Indexed (s : Store) : Prop where
  distinct : (s.keys.map Prod.fst).Nodup
  agrees : ∀ key id, (key, id) ∈ s.keys ↔ s.keyOf? id = some key

theorem indexed_empty : empty.Indexed := ⟨List.nodup_nil, by simp [empty, keyOf?, find?]⟩

/-! ## Looking keys up -/

theorem holder?_eq_none_iff : s.holder? key = none ↔ key ∉ s.keys.map Prod.fst := by
  rw [holder?, Option.map_eq_none_iff, List.find?_eq_none]
  constructor
  · intro free member
    obtain ⟨e, he, name⟩ := List.mem_map.mp member
    exact free e he (by simpa using name)
  · intro free e he name
    exact free (List.mem_map.mpr ⟨e, he, by simpa using name⟩)

/-- The holder of a key is the job that the index gives it to. -/
theorem holder?_eq_some_iff_mem (distinct : (s.keys.map Prod.fst).Nodup) :
    s.holder? key = some id ↔ (key, id) ∈ s.keys := by
  unfold holder?
  constructor
  · intro found
    obtain ⟨e, he, rfl⟩ := Option.map_eq_some_iff.mp found
    have name : e.1 = key := by simpa using List.find?_some he
    rw [← name]
    exact List.mem_of_find?_eq_some he
  · intro member
    have found : (s.keys.find? fun e => e.1 = key).isSome := by
      rw [List.find?_isSome]
      exact ⟨_, member, by simp⟩
    obtain ⟨e, he⟩ := Option.isSome_iff_exists.mp found
    have name : e.1 = key := by simpa using List.find?_some he
    have same := List.inj_on_of_nodup_map distinct (List.mem_of_find?_eq_some he) member name
    rw [he, same]
    rfl

/-- A key is free when the entry of its holder is gone and none is new. -/
theorem holder?_eq_none_of_gone {after : Store} (distinct : (s.keys.map Prod.fst).Nodup)
    (sub : ∀ e ∈ after.keys, e ∈ s.keys) (own : (key, id) ∈ s.keys)
    (gone : (key, id) ∉ after.keys) : after.holder? key = none := by
  rw [holder?_eq_none_iff]
  intro listed
  obtain ⟨e, entry, name⟩ := List.mem_map.mp listed
  -- the index gave the key to one job only
  have same := List.inj_on_of_nodup_map distinct own (sub e entry) name.symm
  exact gone (same ▸ entry)

/-- A key has the holder that it had when its entries are those that there were. -/
theorem holder?_eq_of_kept {after : Store} (distinct : (s.keys.map Prod.fst).Nodup)
    (distinct' : (after.keys.map Prod.fst).Nodup)
    (same : ∀ id, (key, id) ∈ after.keys ↔ (key, id) ∈ s.keys) :
    after.holder? key = s.holder? key := by
  ext id
  rw [holder?_eq_some_iff_mem distinct', holder?_eq_some_iff_mem distinct, same]

/-- The holder of a key is the job whose document carries it. -/
theorem Indexed.holder?_eq_some_iff (h : s.Indexed) :
    s.holder? key = some id ↔ s.keyOf? id = some key := by
  rw [← h.agrees]
  exact holder?_eq_some_iff_mem h.distinct

/-- A key is taken exactly when a document carries it. -/
theorem Indexed.isSome_holder?_iff (h : s.Indexed) (unique : s.UniqueIds) :
    (s.holder? key).isSome = true ↔ ∃ job ∈ s.jobs, job.idempotencyKey = some key := by
  rw [Option.isSome_iff_exists]
  constructor
  · rintro ⟨id, holds⟩
    obtain ⟨job, hfind, hkey⟩ := Option.bind_eq_some_iff.mp (h.holder?_eq_some_iff.mp holds)
    exact ⟨job, mem_of_find? hfind, hkey⟩
  · rintro ⟨job, hmem, hkey⟩
    refine ⟨job.id, h.holder?_eq_some_iff.mpr ?_⟩
    rw [keyOf?, find?_of_mem unique hmem]
    exact hkey

/-! ## Releasing keys -/

theorem mem_releaseKey {keys : List (String × Uuid)} {e : String × Uuid} :
    e ∈ releaseKey keys job ↔ e ∈ keys ∧ ¬(job.idempotencyKey = some e.1 ∧ job.id = e.2) := by
  unfold releaseKey
  split
  · rename_i none
    simp [none]
  · rename_i held
    rw [held, Option.some.injEq, List.mem_filter, eq_comm (b := e.1), eq_comm (b := e.2)]
    simp only [Bool.not_eq_true', Bool.and_eq_false_iff, decide_eq_false_iff_not, not_and_or]

theorem releaseKey_sublist (keys : List (String × Uuid)) (job : Job) :
    (releaseKey keys job).Sublist keys := by
  unfold releaseKey
  split
  · exact .refl _
  · exact List.filter_sublist

theorem mem_foldl_releaseKey {keys : List (String × Uuid)} {jobs : List Job} {e : String × Uuid} :
    e ∈ jobs.foldl releaseKey keys ↔
      e ∈ keys ∧ ∀ job ∈ jobs, ¬(job.idempotencyKey = some e.1 ∧ job.id = e.2) := by
  induction jobs generalizing keys with
  | nil => simp
  | cons job jobs ih =>
    rw [List.foldl_cons, ih, mem_releaseKey, List.forall_mem_cons, and_assoc]

theorem foldl_releaseKey_sublist (keys : List (String × Uuid)) (jobs : List Job) :
    (jobs.foldl releaseKey keys).Sublist keys := by
  induction jobs generalizing keys with
  | nil => exact .refl _
  | cons job jobs ih => exact (ih (releaseKey keys job)).trans (releaseKey_sublist keys job)

/-! ## The calls that move keys -/

/-- A job with a key is refused while the key is taken. -/
theorem insert_of_key (held : job.idempotencyKey = some key) :
    s.insert job =
      if (s.holder? key).isSome then (.error (.conflict job.jobType key), s)
      else (.ok job, { s with jobs := putJob job s.jobs, keys := (key, job.id) :: s.keys }) := by
  rw [insert, held]

/-- A job put in under a new identifier takes its key, or is refused. -/
theorem indexed_insert (h : s.Indexed) (absent : s.find? job.id = none) :
    (s.insert job).2.Indexed := by
  have none : s.keyOf? job.id = none := by rw [keyOf?, absent, Option.bind_none]
  have put (keys : List (String × Uuid)) (id : Uuid) :
      keyOf? ⟨putJob job s.jobs, keys, s.deadLetters⟩ id =
        if job.id = id then job.idempotencyKey else s.keyOf? id := by
    rw [keyOf?, find?_put]
    split <;> rfl
  unfold insert
  split
  · rename_i noKey
    refine ⟨h.distinct, fun key id => ?_⟩
    rw [put, noKey, h.agrees]
    split
    · rename_i same
      rw [← same, none]
    · rfl
  · rename_i key held
    split
    · exact h
    · rename_i free
      rw [Option.not_isSome_iff_eq_none, holder?_eq_none_iff] at free
      refine ⟨List.nodup_cons.mpr ⟨free, h.distinct⟩, fun other id => ?_⟩
      rw [put, List.mem_cons, h.agrees, Prod.mk.injEq, held]
      split
      · rename_i same
        subst same
        simp [none, eq_comm]
      · rename_i differs
        simp [Ne.symm differs]

/-- A job that failed gives its key back. -/
theorem indexed_markFailed (h : s.Indexed) (target : Uuid) (worker : String) (error : Failure)
    (now : Instant) : (s.markFailed target worker error now).2.Indexed := by
  rcases s.markFailed_cases target worker error now with h' | ⟨job, hfind, -, h'⟩
  · rwa [h']
  · rw [h']
    have hid : job.id = target := id_of_find? hfind
    refine ⟨h.distinct.sublist ((releaseKey_sublist _ _).map _), fun key id => ?_⟩
    have same : (failed job error now).id = job.id := rfl
    rw [mem_releaseKey, h.agrees, keyOf?, keyOf?, find?_put, same]
    split
    · rename_i same
      rw [← same, hid, hfind]
      simp [failed, Job.clearLock]
    · rename_i differs
      simp [differs]

/-- The jobs whose locks ran out on their last attempt. -/
theorem mem_spent_iff : job ∈ ((s.jobs.filter fun job => job.lockExpired now).partition
    Job.hasAttemptsRemaining).2 ↔
      job ∈ s.jobs ∧ job.lockExpired now = true ∧ job.hasAttemptsRemaining = false := by
  simp only [List.partition_eq_filter_filter, List.mem_filter, Function.comp_apply,
    Bool.not_eq_true', and_assoc]

/-- A pass over expired locks takes the keys of the jobs that it fails, and no others. -/
theorem key_released (job : Job) (now : Instant) :
    (released job now).idempotencyKey =
      if job.lockExpired now ∧ job.hasAttemptsRemaining = false then none
      else job.idempotencyKey := by
  unfold released
  cases job.lockExpired now with
  | false => simp
  | true => cases job.hasAttemptsRemaining <;> rfl

/-- The jobs that a pass over expired locks fails give their keys back. -/
theorem indexed_releaseStuck (h : s.Indexed) (unique : s.UniqueIds) (now : Instant) :
    (s.releaseStuck now).2.Indexed := by
  refine ⟨h.distinct.sublist ((foldl_releaseKey_sublist _ _).map _), fun key id => ?_⟩
  show _ ∈ (List.partition _ _).2.foldl releaseKey s.keys ↔ _
  rw [mem_foldl_releaseKey, h.agrees, keyOf?, keyOf?, find?_releaseStuck]
  cases hfind : s.find? id with
  | none => simp
  | some job =>
    have hmem := mem_of_find? hfind
    have hid := id_of_find? hfind
    show job.idempotencyKey = some key ∧ _ ↔ (released job now).idempotencyKey = some key
    rw [key_released]
    by_cases spent : job.lockExpired now = true ∧ job.hasAttemptsRemaining = false
    · -- the document has lost its key, and so has the index
      rw [if_pos spent]
      refine iff_of_false ?_ (by simp)
      rintro ⟨hkey, others⟩
      exact others job (mem_spent_iff.mpr ⟨hmem, spent⟩) ⟨hkey, hid⟩
    · -- no job that fails has this identifier
      rw [if_neg spent, and_iff_left_iff_imp]
      rintro - other hspent ⟨-, same⟩
      obtain ⟨hother, hspent⟩ := mem_spent_iff.mp hspent
      have : other = job := List.inj_on_of_nodup_map unique hother hmem (same.trans hid.symm)
      exact spent (this ▸ hspent)

/-! ## Every call -/

theorem keys_updateLocked (s : Store) (target : Uuid) (worker : String) (change : Job → Job) :
    (s.updateLocked target worker change).2.keys = s.keys := by
  rcases s.updateLocked_cases target worker change with h | ⟨job, -, -, h⟩ <;> rw [h]

/-- A call that moves no keys leaves the index alone. -/
theorem keys_perform {c : Call} (keeps : c.movesKeys = false) : (s.perform c).2.keys = s.keys := by
  cases c with
  | insert | markFailed | releaseStuck => simp [Call.movesKeys] at keeps
  | claimNext worker now =>
    show (s.claimNext worker now).2.keys = s.keys
    rcases s.claimNext_cases worker now with h | ⟨job, -, -, h⟩ <;> rw [h]
  | heartbeat | markSucceeded | markRetry => exact keys_updateLocked ..
  | incrementRetryCount id now =>
    show (s.incrementRetryCount id now).2.keys = s.keys
    unfold incrementRetryCount
    split <;> rfl
  | _ => rfl

/-- **Every call keeps the index exact**, as long as a job that is put in has a new identifier. -/
theorem indexed_perform (h : s.Indexed) (unique : s.UniqueIds) (c : Call)
    (absent : ∀ job, c = .insert job → s.find? job.id = none) : (s.perform c).2.Indexed := by
  cases hmoves : c.movesKeys with
  | false =>
    have keys := keys_perform (s := s) hmoves
    have documents (id : Uuid) : (s.perform c).2.keyOf? id = s.keyOf? id :=
      (change_perform unique c id).key_eq hmoves
    exact ⟨keys ▸ h.distinct, fun key id => by rw [keys, documents, h.agrees]⟩
  | true =>
    cases c <;> simp only [Call.movesKeys, Bool.false_eq_true] at hmoves
    case insert job => exact indexed_insert h (absent job rfl)
    case markFailed target worker error now => exact indexed_markFailed h target worker error now
    case releaseStuck now => exact indexed_releaseStuck h unique now

end Store

end JobQueue
