import JobQueue.Proofs.Store.Documents

/-!
# The dead-letter records of a store

Records are put in as jobs are, in the place of the one with their identifier or behind the others.

* `Store.find?_putDeadLetter` and `Store.incrementRetryCount_of_found`: what is found when one was
  put in, or counted on.
* `Store.deadLetters_perform` and `Store.origin_of_mem_perform`: a call leaves the records as they
  are, but for how often they were submitted again.
* `Store.foldl_insertDeadLetter` and `Store.foldl_putDeadLetter`: several records, one after the
  other.
-/

namespace JobQueue

/-- Whether a call may put records in, count on them or remove them. -/
def Call.movesRecords : Call → Bool
  | .insertDeadLetter _ | .incrementRetryCount _ _ => true
  | .deleteDeadLetter _ | .deleteDeadLettersBefore _ => true
  | _ => false

namespace Store

theorem find?_putDeadLetter (record : DeadLetter) (records : List DeadLetter) (id : Uuid) :
    (putDeadLetter record records).find? (fun other => other.id = id) =
      if record.id = id then some record else records.find? fun other => other.id = id :=
  find?_putBy DeadLetter.id record records id

theorem id_of_findDeadLetter? {s : Store} {id : Uuid} {record : DeadLetter}
    (found : s.findDeadLetter? id = some record) : record.id = id :=
  of_decide_eq_true (List.find?_some found :)

/-- Counting on a record that is found puts the counted one in its place. -/
theorem incrementRetryCount_of_found {s : Store} {id : Uuid} {record : DeadLetter}
    (found : s.findDeadLetter? id = some record) (now : Instant) :
    s.incrementRetryCount id now = (some (retriedRecord record now),
      { s with deadLetters := putDeadLetter (retriedRecord record now) s.deadLetters }) := by
  rw [incrementRetryCount, found]

/-- A call on the jobs leaves the records as they are. -/
theorem deadLetters_perform {s : Store} {c : Call} (keeps : c.movesRecords = false) :
    (s.perform c).2.deadLetters = s.deadLetters := by
  have locked (target : Uuid) (worker : String) (change : Job → Job) :
      (s.updateLocked target worker change).2.deadLetters = s.deadLetters := by
    rcases s.updateLocked_cases target worker change with h | ⟨job, -, -, h⟩ <;> rw [h]
  cases c with
  | insertDeadLetter | incrementRetryCount | deleteDeadLetter | deleteDeadLettersBefore =>
    cases keeps
  | insert job =>
    show (s.insert job).2.deadLetters = s.deadLetters
    rcases s.insert_cases job with ⟨e, h⟩ | ⟨keys, h⟩ <;> rw [h]
  | claimNext worker now =>
    show (s.claimNext worker now).2.deadLetters = s.deadLetters
    rcases s.claimNext_cases worker now with h | ⟨job, -, -, h⟩ <;> rw [h]
  | heartbeat | markSucceeded | markRetry => exact locked _ _ _
  | markFailed target worker error now =>
    show (s.markFailed target worker error now).2.deadLetters = s.deadLetters
    rcases s.markFailed_cases target worker error now with h | ⟨job, -, -, h⟩ <;> rw [h]
  | _ => rfl

/-- A record that is there after a call is the one that the call put in, or was there before, with
another count perhaps. -/
theorem origin_of_mem_perform {s : Store} {c : Call} {record : DeadLetter}
    (h : record ∈ (s.perform c).2.deadLetters) :
    c = .insertDeadLetter record ∨ ∃ old ∈ s.deadLetters, ∃ count time,
      record = { old with retryCount := count, lastRetriedAt := time } := by
  have here (listed : record ∈ s.deadLetters) : c = .insertDeadLetter record ∨
      ∃ old ∈ s.deadLetters, ∃ count time,
        record = { old with retryCount := count, lastRetriedAt := time } :=
    .inr ⟨record, listed, record.retryCount, record.lastRetriedAt, rfl⟩
  by_cases moves : c.movesRecords = true
  · cases c <;> simp only [Call.movesRecords, Bool.false_eq_true] at moves
    case insertDeadLetter other =>
      rcases mem_putBy h with rfl | h
      · exact .inl rfl
      · exact here h
    case incrementRetryCount id now =>
      have h : record ∈ (s.incrementRetryCount id now).2.deadLetters := h
      cases found : s.findDeadLetter? id with
      | none =>
        rw [incrementRetryCount, found] at h
        exact here h
      | some other =>
        rw [incrementRetryCount_of_found found] at h
        rcases mem_putBy h with rfl | h
        · exact .inr ⟨other, List.mem_of_find?_eq_some found, other.retryCount + 1, some now, rfl⟩
        · exact here h
    case deleteDeadLetter id => exact here (List.mem_filter.mp h).1
    case deleteDeadLettersBefore cutoff => exact here (List.mem_filter.mp h).1
  · rw [deadLetters_perform (Bool.eq_false_iff.mpr moves)] at h
    exact here h

/-- Records are put in without a change of the rest of the store. -/
theorem foldl_insertDeadLetter (s : Store) (records : List DeadLetter) :
    records.foldl insertDeadLetter s =
      { s with
        deadLetters := records.foldl (fun kept record => putDeadLetter record kept) s.deadLetters }
    := by
  induction records generalizing s with
  | nil => rfl
  | cons record rest ih =>
    rw [List.foldl_cons, ih]
    rfl

/-- Records with new identifiers are put behind the others. -/
theorem foldl_putDeadLetter {kept records : List DeadLetter}
    (new : ∀ record ∈ records, ∀ other ∈ kept, other.id ≠ record.id)
    (distinct : (records.map DeadLetter.id).Nodup) :
    records.foldl (fun kept record => putDeadLetter record kept) kept = kept ++ records := by
  induction records generalizing kept with
  | nil => rw [List.foldl_nil, List.append_nil]
  | cons record rest ih =>
    obtain ⟨first, others⟩ := List.forall_mem_cons.mp new
    rw [List.map_cons, List.nodup_cons] at distinct
    rw [List.foldl_cons, putDeadLetter, putBy_of_absent first, ih ?_ distinct.2, List.append_assoc,
      List.singleton_append]
    intro later hlater other hother
    rcases List.mem_append.mp hother with hother | hother
    · exact others later hlater other hother
    · rw [List.mem_singleton.mp hother]
      intro same
      exact distinct.1 (same ▸ List.mem_map_of_mem hlater)

end Store

end JobQueue
