import JobQueue.Proofs.Store.Holders

/-!
# Documents that are put in

A job that is put in is refused when its key is taken. Its identifier is not looked at: where a
document stands under it already, the new one takes its place, and the old one is gone. (PostgreSQL
refuses such a row as a duplicate, by the primary key of its table.)

* `Store.LosesNothing`: what an insertion is to do, and `Store.insert_losesNothing_iff`: it does so
  exactly when the job is refused or its identifier is new. Otherwise it replaces a document
  (`Store.Replaces`).
* `Store.Strands`: the index gives a key to a job that does not carry it. So it does with the key of
  a document that was replaced, and no call ends that (`Store.strands_perform`): no job is put in
  with this key any more (`Store.Replaces.key_lost`).
* `Store.Registers`: even so, every document has its key in the index (`Store.registers_after`).
-/

namespace JobQueue.Store

variable {s after : Store} {old job : Job} {jobs : List Job} {id : Uuid} {key : String}

/-! ## One insertion -/

/-- A document is put in beside the earlier ones. -/
structure Adds (s : Store) (job : Job) (after : Store) : Prop where
  earlier : ∀ id other, s.find? id = some other → after.find? id = some other
  stored : after.find? job.id = some job
  count : after.jobCount = s.jobCount + 1
  indexed : s.Indexed → after.Indexed

/-- An insertion is refused and changes nothing, or puts the document in beside the earlier ones. -/
def LosesNothing (s : Store) (job : Job) : Prop :=
  (∃ e, s.insert job = (.error e, s)) ∨
    ∃ after, s.insert job = (.ok job, after) ∧ s.Adds job after

/-- A document is put in the place of an earlier one. That one is gone, and the index goes on giving
out its key. -/
structure Replaces (s : Store) (old job : Job) (after : Store) : Prop where
  found : s.find? job.id = some old
  stored : after.find? job.id = some job
  others : ∀ id, id ≠ job.id → after.find? id = s.find? id
  count : after.jobCount = s.jobCount
  keys : ∀ e ∈ s.keys, e ∈ after.keys

/-- A job that is put in the place of another one makes no more of them. -/
theorem length_putJob_of_mem (h : old ∈ jobs) (same : old.id = job.id) :
    (putJob job jobs).length = jobs.length := by
  have lengths := congrArg List.length (map_putBy_of_present ⟨old, h, same⟩)
  rwa [List.length_map, List.length_map] at lengths

/-- A job with a new identifier is put in beside the others. -/
theorem adds_insert (absent : s.find? job.id = none) (accepted : s.insert job = (.ok job, after)) :
    s.Adds job after := by
  have indexed (h : s.Indexed) : after.Indexed := by
    have := indexed_insert h absent
    rwa [accepted] at this
  rcases s.insert_cases job with ⟨e, refused⟩ | ⟨keys, put⟩
  · rw [refused] at accepted
    cases accepted
  · rw [put] at accepted
    cases accepted
    refine ⟨fun id other hother => ?_, ?_, ?_, indexed⟩
    · have differs : job.id ≠ id := by
        rintro rfl
        rw [absent] at hother
        cases hother
      rw [find?_put, if_neg differs, hother]
    · rw [find?_put, if_pos rfl]
    · show (putJob job s.jobs).length = s.jobs.length + 1
      rw [putJob_of_absent (find?_eq_none_iff.mp absent), List.length_append]
      rfl

/-- An insertion takes nothing out of the index. -/
theorem mem_keys_insert (job : Job) {e : String × Uuid} (h : e ∈ s.keys) :
    e ∈ (s.insert job).2.keys := by
  unfold insert
  split
  · exact h
  · split
    · exact h
    · exact List.mem_cons_of_mem _ h

/-- A job with the identifier of another one is put in its place. -/
theorem replaces_insert (found : s.find? job.id = some old)
    (accepted : s.insert job = (.ok job, after)) : s.Replaces old job after := by
  have keys : ∀ e ∈ s.keys, e ∈ (s.insert job).2.keys := fun e => mem_keys_insert job
  rw [accepted] at keys
  rcases s.insert_cases job with ⟨e, refused⟩ | ⟨keys, put⟩
  · rw [refused] at accepted
    cases accepted
  · rw [put] at accepted
    cases accepted
    refine ⟨found, ?_, fun id differs => ?_, ?_, by assumption⟩
    · rw [find?_put, if_pos rfl]
    · rw [find?_put, if_neg differs.symm]
    · exact length_putJob_of_mem (mem_of_find? found) (id_of_find? found)

/-- Where a document was put in the place of another one, there is no further one. -/
theorem Replaces.not_adds (h : s.Replaces old job after) : ¬s.Adds job after := by
  intro adds
  have := adds.count
  rw [h.count] at this
  omega

/-- **Insertions that lose nothing** are those that are refused, and those of jobs with a new
identifier. Every other one puts the job in the place of the document with its identifier: that one
is gone, while the index goes on giving out its key. -/
theorem insert_losesNothing_iff (s : Store) (job : Job) :
    (s.LosesNothing job ↔ (∃ e, (s.insert job).1 = .error e) ∨ s.find? job.id = none) ∧
      (s.LosesNothing job ∨ ∃ old, s.Replaces old job (s.insert job).2) := by
  rcases s.insert_cases job with ⟨e, refused⟩ | ⟨keys, put⟩
  · have loses : s.LosesNothing job := .inl ⟨e, refused⟩
    exact ⟨iff_of_true loses (.inl ⟨e, congrArg Prod.fst refused⟩), .inl loses⟩
  · have accepted : ¬∃ e, (s.insert job).1 = .error e := by
      rintro ⟨e, h⟩
      rw [put] at h
      cases h
    cases found : s.find? job.id with
    | none =>
      have loses : s.LosesNothing job := .inr ⟨_, put, adds_insert found put⟩
      exact ⟨iff_of_true loses (.inr rfl), .inl loses⟩
    | some old =>
      have replaces := replaces_insert found put
      refine ⟨iff_of_false ?_ (by simpa using accepted), .inr ⟨old, by rwa [put]⟩⟩
      rintro (⟨e, refused⟩ | ⟨after, h, adds⟩)
      · exact accepted ⟨e, congrArg Prod.fst refused⟩
      · rw [put] at h
        cases h
        exact replaces.not_adds adds

/-! ### Two parcels

The second parcel is put in under the identifier of the first one, with a key of its own.
-/

namespace Parcels

def first : Job :=
  { Job.queued (.ofNat 1) "a" (.object []) .epoch with idempotencyKey := some "k1" }

def second : Job :=
  { Job.queued (.ofNat 1) "b" (.object []) .epoch with idempotencyKey := some "k2" }

/-- A store with the first parcel. -/
def shelf : Store := empty.after [.insert first]

end Parcels

/-- The second parcel takes the place of the first one, whose key stays taken with no document that
carries it. -/
theorem insert_loses_parcel :
    ¬Parcels.shelf.LosesNothing Parcels.second ∧
      (Parcels.shelf.insert Parcels.second).1 = .ok Parcels.second ∧
      (Parcels.shelf.insert Parcels.second).2.jobs = [Parcels.second] ∧
      (Parcels.shelf.insert Parcels.second).2.holder? "k1" = some (.ofNat 1) := by
  have put : Parcels.shelf.insert Parcels.second =
      (.ok Parcels.second, ⟨[Parcels.second], [("k2", .ofNat 1), ("k1", .ofNat 1)], []⟩) := rfl
  rw [put]
  refine ⟨?_, rfl, rfl, by decide⟩
  rintro (⟨e, refused⟩ | ⟨after, h, adds⟩)
  · rw [put] at refused
    cases refused
  · rw [put] at h
    cases h
    exact absurd adds.count (by decide)

/-! ## Keys without a document -/

/-- The index gives a key to a job that does not carry it. -/
structure Strands (s : Store) (key : String) (id : Uuid) : Prop where
  listed : (key, id) ∈ s.keys
  notCarried : s.keyOf? id ≠ some key

/-- The key of a document that was replaced by one with another key. -/
theorem Replaces.strands (h : s.Replaces old job after) (indexed : s.Indexed)
    (carried : old.idempotencyKey = some key) (other : job.idempotencyKey ≠ some key) :
    after.Strands key job.id where
  listed := by
    refine h.keys _ ((indexed.agrees key job.id).mpr ?_)
    rw [keyOf?, h.found]
    exact carried
  notCarried := by
    rw [keyOf?, h.stored]
    exact other

/-- No job is put in with a key that the index gives to anybody. -/
theorem Strands.refused (h : s.Strands key id) (held : job.idempotencyKey = some key) :
    s.insert job = (.error (.conflict job.jobType key), s) := by
  have taken : (s.holder? key).isSome = true := by
    rw [Option.isSome_iff_ne_none]
    intro free
    exact holder?_eq_none_iff.mp free (List.mem_map_of_mem h.listed)
  rw [insert_of_key held, if_pos taken]

/-- The job that such a key is given to is none that gives the key back. -/
theorem Strands.not_given_back (h : s.Strands key id) (found : s.find? job.id = some job) :
    ¬(job.idempotencyKey = some key ∧ job.id = id) := by
  rintro ⟨carries, rfl⟩
  apply h.notCarried
  rw [keyOf?, found]
  exact carries

/-- No call takes such a key out of the index. -/
theorem Strands.listed_perform (h : s.Strands key id) (unique : s.UniqueIds) (c : Call) :
    (key, id) ∈ (s.perform c).2.keys := by
  cases hmoves : c.movesKeys with
  | false =>
    rw [keys_perform hmoves]
    exact h.listed
  | true =>
    cases c <;> simp only [Call.movesKeys, Bool.false_eq_true] at hmoves
    case insert job => exact mem_keys_insert job h.listed
    case markFailed target worker error now =>
      show _ ∈ (s.markFailed target worker error now).2.keys
      rcases s.markFailed_cases target worker error now with h' | ⟨job, found, -, h'⟩
      · rw [h']
        exact h.listed
      · rw [h']
        rw [← id_of_find? found] at found
        exact mem_releaseKey.mpr ⟨h.listed, h.not_given_back found⟩
    case releaseStuck now =>
      refine mem_foldl_releaseKey.mpr ⟨h.listed, fun job spent => h.not_given_back ?_⟩
      exact find?_of_mem unique (mem_spent_iff.mp spent).1

/-- A key that the index gives to a job that does not carry it **is never given back**. -/
theorem strands_perform (h : s.Strands key id) (unique : s.UniqueIds) (c : Call) :
    (s.perform c).2.Strands key id := by
  refine ⟨h.listed_perform unique c, fun carried => ?_⟩
  obtain ⟨new, found, carries⟩ := Option.bind_eq_some_iff.mp carried
  have before {doc : Job} (hdoc : s.find? id = some doc) : doc.idempotencyKey ≠ some key := by
    have notCarried := h.notCarried
    rw [keyOf?, hdoc] at notCarried
    exact notCarried
  by_cases put : ∃ job, c = .insert job
  · obtain ⟨job, rfl⟩ := put
    change (s.insert job).2.find? id = some new at found
    rcases s.insert_cases job with ⟨e, refused⟩ | ⟨keys, put⟩
    · rw [refused] at found
      exact before found carries
    · have held : job.idempotencyKey ≠ some key := fun held => by
        rw [h.refused held] at put
        cases put
      rw [put, find?_put] at found
      split at found
      · cases found
        exact held carries
      · exact before found carries
  · have change := change_perform unique c id
    rw [found] at change
    obtain ⟨doc, hdoc, carried⟩ := change.carried (fun job heq => put ⟨job, heq⟩) carries
    exact before hdoc carried

theorem strands_after (h : s.Strands key id) (unique : s.UniqueIds) (calls : List Call) :
    (s.after calls).Strands key id := by
  induction calls generalizing s with
  | nil => exact h
  | cons c calls ih => exact ih (strands_perform h unique c) (uniqueIds_perform unique c)

/-- **The key of a document that was replaced is lost.** Whatever calls are made after that, no job
with this key is put in. -/
theorem Replaces.key_lost (h : s.Replaces old job after) (indexed : s.Indexed)
    (unique : after.UniqueIds) (carried : old.idempotencyKey = some key)
    (other : job.idempotencyKey ≠ some key) (calls : List Call) {late : Job}
    (held : late.idempotencyKey = some key) :
    (after.after calls).insert late = (.error (.conflict late.jobType key), after.after calls) :=
  (strands_after (h.strands indexed carried other) unique calls).refused held

/-! ## Documents and their keys -/

/-- The index gives each key to one job at most, and each document has its key in it. There may be
keys in it that no document carries. -/
structure Registers (s : Store) : Prop where
  distinct : (s.keys.map Prod.fst).Nodup
  lists : ∀ id key, s.keyOf? id = some key → (key, id) ∈ s.keys

theorem registers_empty : empty.Registers := ⟨List.nodup_nil, by simp [empty, keyOf?, find?]⟩

theorem Registers.congr (h : s.Registers) (jobs : after.jobs = s.jobs)
    (keys : after.keys = s.keys) : after.Registers where
  distinct := keys ▸ h.distinct
  lists := by
    intro id key
    rw [keyOf?, find?, jobs, keys]
    exact h.lists id key

theorem registers_insert (h : s.Registers) (job : Job) : (s.insert job).2.Registers := by
  have put (keys : List (String × Uuid)) (id : Uuid) :
      keyOf? ⟨putJob job s.jobs, keys, s.deadLetters⟩ id =
        if job.id = id then job.idempotencyKey else s.keyOf? id := by
    rw [keyOf?, find?_put]
    split <;> rfl
  unfold insert
  split
  · rename_i noKey
    refine ⟨h.distinct, fun id key => ?_⟩
    rw [put, noKey]
    split
    · rintro ⟨⟩
    · exact h.lists id key
  · rename_i own held
    split
    · exact h
    · rename_i free
      rw [Option.not_isSome_iff_eq_none, holder?_eq_none_iff] at free
      refine ⟨List.nodup_cons.mpr ⟨free, h.distinct⟩, fun id key => ?_⟩
      rw [put, held]
      split
      · rename_i same
        rintro ⟨⟩
        rw [same]
        exact List.mem_cons_self
      · exact fun carries => List.mem_cons_of_mem _ (h.lists id key carries)

theorem registers_markFailed (h : s.Registers) (target : Uuid) (worker : String) (error : Failure)
    (now : Instant) : (s.markFailed target worker error now).2.Registers := by
  rcases s.markFailed_cases target worker error now with h' | ⟨job, -, -, h'⟩
  · rwa [h']
  · rw [h']
    refine ⟨h.distinct.sublist ((releaseKey_sublist _ _).map _), fun id key => ?_⟩
    rw [keyOf?, find?_put]
    split
    · rintro ⟨⟩
    · rename_i differs
      exact fun carries => mem_releaseKey.mpr ⟨h.lists id key carries, fun gone => differs gone.2⟩

theorem registers_releaseStuck (h : s.Registers) (unique : s.UniqueIds) (now : Instant) :
    (s.releaseStuck now).2.Registers := by
  refine ⟨h.distinct.sublist ((foldl_releaseKey_sublist _ _).map _), fun id key carried => ?_⟩
  rw [keyOf?, find?_releaseStuck] at carried
  obtain ⟨new, found, carries⟩ := Option.bind_eq_some_iff.mp carried
  obtain ⟨doc, hdoc, rfl⟩ := Option.map_eq_some_iff.mp found
  rw [key_released] at carries
  split at carries
  · cases carries
  · rename_i spared
    refine mem_foldl_releaseKey.mpr ⟨h.lists id key (by rw [keyOf?, hdoc]; exact carries), ?_⟩
    rintro other spent ⟨-, same⟩
    obtain ⟨hother, gone⟩ := mem_spent_iff.mp spent
    have heq := find?_of_mem unique hother
    rw [same, hdoc, Option.some.injEq] at heq
    exact spared (heq ▸ gone)

/-- **Every call keeps the keys of all documents in the index**, whatever it puts in. -/
theorem registers_perform (h : s.Registers) (unique : s.UniqueIds) (c : Call) :
    (s.perform c).2.Registers := by
  cases hmoves : c.movesKeys with
  | false =>
    have keys := keys_perform (s := s) hmoves
    have documents (id : Uuid) : (s.perform c).2.keyOf? id = s.keyOf? id :=
      (change_perform unique c id).key_eq hmoves
    exact ⟨keys ▸ h.distinct, fun id key => by rw [keys, documents]; exact h.lists id key⟩
  | true =>
    cases c <;> simp only [Call.movesKeys, Bool.false_eq_true] at hmoves
    case insert job => exact registers_insert h job
    case markFailed target worker error now => exact registers_markFailed h target worker error now
    case releaseStuck now => exact registers_releaseStuck h unique now

theorem registers_after (calls : List Call) : (empty.after calls).Registers := by
  induction calls using List.reverseRecOn with
  | nil => exact registers_empty
  | append_singleton calls c ih =>
    rw [after_concat]
    exact registers_perform ih (uniqueIds_after uniqueIds_empty calls) c

end JobQueue.Store
