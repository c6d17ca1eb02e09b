import JobQueue.Proofs.Interleaving.Failures
import JobQueue.Proofs.Store.Records
import Mathlib.Data.List.Flatten
import Mathlib.Data.List.Forall2
import Mathlib.Data.List.Pairwise

/-!
# The records of failed jobs

A job fails by one call, and its record is made by another one, later. In between anything may
happen, and the worker that is to make the record may be at any other job before it gets to it.

* `failuresOf`, `recordsOf`: the jobs that an actor failed, and the records that it made.
* `Ledger.Buried`: the records that a worker made are those of the first of the jobs that it failed,
  in that order, and it still owes the others.
* `System.burial`: hence every job that failed gets one record, which its own worker makes, and no
  other job gets any; and when all workers are at rest, the records are those of the failed jobs of
  the store, with what their documents hold then and ever after.
-/

namespace JobQueue

variable {handler ι κ : Type}

/-! ## Who did what -/

/-- Who did something. -/
def Occurrence.actor : Occurrence ι κ → Actor ι κ
  | .called a _ _ => a
  | .drew a _ => a
  | .ended a _ => a

/-- A record is in the store as soon as it was made. -/
theorem Occurrence.stored_of_record? {e : Occurrence ι κ} {r : DeadLetter}
    (made : e.record? = some r) : ∃ before, e = .called e.actor (.insertDeadLetter r) before ∧
      (before.perform (.insertDeadLetter r)).2.findDeadLetter? r.id = some r := by
  cases e with
  | called a c before =>
    cases c <;> cases made
    exact ⟨before, rfl, (Store.find?_putDeadLetter _ _ _).trans (if_pos rfl)⟩
  | drew | ended => cases made

section

variable [DecidableEq ι] [DecidableEq κ]

/-- The jobs that an actor failed, in the order in which it did. -/
def failuresOf (h : List (Occurrence ι κ)) (a : Actor ι κ) : List Job :=
  failures (h.filter fun e => e.actor = a)

/-- The records that an actor made, in the order in which it did. -/
def recordsOf (h : List (Occurrence ι κ)) (a : Actor ι κ) : List DeadLetter :=
  records (h.filter fun e => e.actor = a)

variable (h : List (Occurrence ι κ)) (e : Occurrence ι κ) (a : Actor ι κ)

theorem failuresOf_append :
    failuresOf (h ++ [e]) a = failuresOf h a ++ if e.actor = a then e.failed else [] := by
  by_cases heq : e.actor = a <;> simp [failuresOf, heq]

theorem recordsOf_append :
    recordsOf (h ++ [e]) a = recordsOf h a ++ if e.actor = a then e.record?.toList else [] := by
  by_cases heq : e.actor = a <;> simp [recordsOf, heq]

theorem failuresOf_sublist : (failuresOf h a).Sublist (failures h) :=
  List.filter_sublist.flatMap _

variable {h a}

theorem mem_failuresOf {job : Job} :
    job ∈ failuresOf h a ↔ ∃ e ∈ h, e.actor = a ∧ job ∈ e.failed := by
  simp [failuresOf, failures, and_assoc]

theorem mem_recordsOf {r : DeadLetter} :
    r ∈ recordsOf h a ↔ ∃ e ∈ h, e.actor = a ∧ e.record? = some r := by
  simp [recordsOf, records, and_assoc]

/-- When no job fails twice, a job was failed by one actor. -/
theorem eq_of_mem_failuresOf {b : Actor ι κ} {job job' : Job}
    (nodup : ((failures h).map Job.id).Nodup) (hjob : job ∈ failuresOf h a)
    (hjob' : job' ∈ failuresOf h b) (hid : job.id = job'.id) : a = b := by
  obtain ⟨e, he, rfl, hfailed⟩ := mem_failuresOf.mp hjob
  obtain ⟨e', he', rfl, hfailed'⟩ := mem_failuresOf.mp hjob'
  rw [failures, List.map_flatMap, List.nodup_flatMap] at nodup
  have symm : Std.Symm (Function.onFun List.Disjoint fun e : Occurrence ι κ =>
      e.failed.map Job.id) := ⟨fun _ _ apart _ h h' => apart h' h⟩
  by_contra hne
  have apart := nodup.2.forall he he' fun heq => hne (by rw [heq])
  refine apart (List.mem_map_of_mem hfailed) ?_
  rw [hid]
  exact List.mem_map_of_mem hfailed'

end

/-! ## The invariant -/

namespace Ledger

variable {crew : ι → Worker handler} {l m : Ledger ι κ}

variable [DecidableEq ι] [DecidableEq κ]

/-- Every worker has made the records of the first of the jobs that it failed and owes the others,
no record was made by anyone else, and no job has two. -/
structure Buried (l : Ledger ι κ) : Prop where
  owed : ∀ i, ∃ buried,
    failuresOf l.history (.worker i) = buried ++ (phase l.history (.worker i)).owed ∧
      List.Forall₂ DeadLetter.IsOf (recordsOf l.history (.worker i)) buried
  nodup : ((records l.history).map DeadLetter.jobId).Nodup
  workers : ∀ e ∈ l.history, e.failed ≠ [] ∨ e.record? ≠ none → ∃ i, e.actor = .worker i

theorem buried_opening (start : Store) : (opening start : Ledger ι κ).Buried where
  owed _ := ⟨[], rfl, .nil⟩
  nodup := List.nodup_nil
  workers e he := by cases he

/-- The record that a worker makes next is the first one of its job. -/
theorem Buried.new_record (buried : l.Buried) (recorded : l.Recorded) {i : ι} {job : Job}
    {rest : List Job} (howed : (phase l.history (.worker i)).owed = job :: rest) :
    job.id ∉ (records l.history).map DeadLetter.jobId := by
  intro hmem
  obtain ⟨r, hr, hid⟩ := List.mem_map.mp hmem
  obtain ⟨e, he, hrecord⟩ := List.mem_filterMap.mp hr
  obtain ⟨j, hactor⟩ := buried.workers e he (.inr (by simp [hrecord]))
  obtain ⟨done, hdone, hcopies⟩ := buried.owed j
  obtain ⟨other, hother, hcopy⟩ :=
    DeadLetter.exists_of_isOf hcopies (mem_recordsOf.mpr ⟨e, he, hactor, hrecord⟩)
  have hsame : other.id = job.id := by rw [← hcopy.jobId, hid]
  have hdone' : other ∈ failuresOf l.history (.worker j) := hdone ▸ List.mem_append_left _ hother
  have howes : job ∈ failuresOf l.history (.worker i) := by
    obtain ⟨done', hdone', -⟩ := buried.owed i
    rw [hdone', howed]
    exact List.mem_append_right _ List.mem_cons_self
  -- the same worker failed both, and it failed no job twice
  cases eq_of_mem_failuresOf recorded.nodup hdone' howes hsame
  have hnodup := recorded.nodup.sublist ((failuresOf_sublist l.history (.worker i)).map Job.id)
  rw [hdone, howed, List.map_append, List.nodup_append] at hnodup
  exact hnodup.2.2 _ (List.mem_map_of_mem hother) _ (List.mem_map_of_mem List.mem_cons_self) hsame

/-- What a worker has made records of and what it owes, after one of its calls. -/
theorem Buried.owed_called (buried : l.Buried) {i : ι} {c : Call}
    (permitted : (crew i).permits (phase l.history (.worker i)) c) :
    ∃ done, failuresOf l.history (.worker i) ++ c.failed (l.store.perform c).1 =
        done ++ ((phase l.history (.worker i)).called c (l.store.perform c).1).owed ∧
      List.Forall₂ DeadLetter.IsOf (recordsOf l.history (.worker i) ++ c.buried?.toList) done := by
  obtain ⟨done, hdone, hcopies⟩ := buried.owed i
  by_cases hburied : ∃ record, c = .insertDeadLetter record
  · obtain ⟨record, rfl⟩ := hburied
    obtain ⟨-, -, job, rest, howed, hcopy⟩ := permitted
    refine ⟨done ++ [job], ?_, List.rel_append hcopies (.cons hcopy .nil)⟩
    simp [hdone, howed, Phase.called, Call.buried?, Call.failed]
  · have hnone : c.buried? = none := by
      cases c with
      | insertDeadLetter record => exact absurd ⟨record, rfl⟩ hburied
      | _ => rfl
    refine ⟨done, ?_, ?_⟩
    · simp [hdone, Phase.called, hnone]
    · simpa [hnone] using hcopies

theorem Buried.called (buried : l.Buried) (recorded : l.Recorded) {a : Actor ι κ} {c : Call}
    (permitted : a.permits crew (phase l.history a) c) : (l.called a c).Buried := by
  refine ⟨fun i => ?_, ?_, ?_⟩
  · rw [history_called, failuresOf_append, recordsOf_append, phase_called]
    by_cases heq : a = .worker i
    · subst heq
      simpa [Occurrence.actor, Occurrence.failed, Occurrence.record?] using
        buried.owed_called permitted
    · simpa [Occurrence.actor, heq] using buried.owed i
  · rw [history_called, records_append, List.map_append, List.nodup_append]
    refine ⟨buried.nodup, ?_, ?_⟩
    · show (c.buried?.toList.map DeadLetter.jobId).Nodup
      cases c.buried? <;> simp
    · rintro x hx y hy rfl
      obtain ⟨record, hrecord, rfl⟩ := List.mem_map.mp hy
      have hrecord : c.buried? = some record := Option.mem_toList.mp hrecord
      cases c <;> simp only [Call.buried?, reduceCtorEq, Option.some.injEq] at hrecord
      subst hrecord
      obtain ⟨⟨i, rfl⟩, -, job, rest, howed, hcopy⟩ := Actor.owed_of_insertDeadLetter permitted
      have hcopy : DeadLetter.IsOf _ job := hcopy
      rw [hcopy.jobId] at hx
      exact buried.new_record recorded howed hx
  · intro e he hdid
    rw [history_called, List.mem_append, List.mem_singleton] at he
    rcases he with he | rfl
    · exact buried.workers e he hdid
    · exact Actor.worker_of_failed permitted hdid

/-- What neither fails a job nor makes a record changes nothing, if it leaves what is owed. -/
theorem Buried.quiet (buried : l.Buried) {e : Occurrence ι κ}
    (hhistory : m.history = l.history ++ [e]) (hfailed : e.failed = []) (hrecord : e.record? = none)
    (howed : ∀ i, (phase m.history (.worker i)).owed = (phase l.history (.worker i)).owed) :
    m.Buried := by
  refine ⟨fun i => ?_, ?_, ?_⟩
  · rw [howed, hhistory, failuresOf_append, recordsOf_append, hfailed, hrecord]
    simpa using buried.owed i
  · rw [hhistory, records_append, hrecord]
    simpa using buried.nodup
  · intro e' he' hdid
    rw [hhistory, List.mem_append, List.mem_singleton] at he'
    rcases he' with he' | rfl
    · exact buried.workers e' he' hdid
    · simp [hfailed, hrecord] at hdid

theorem Buried.step (buried : l.Buried) (recorded : l.Recorded) (h : Step crew l m) :
    m.Buried := by
  cases h with
  | called permitted => exact buried.called recorded permitted
  | @drew a id hnew =>
    refine buried.quiet (history_drew l a id) rfl rfl fun i => ?_
    rw [history_drew, phase_drew]
    split <;> rfl
  | @ended a ending concluded =>
    refine buried.quiet (history_ended l a ending) rfl rfl fun i => ?_
    rw [history_ended, phase_ended]
    split
    next heq =>
      subst heq
      obtain ⟨r, -, paid, -⟩ := concluded
      exact paid.symm
    next => rfl

theorem Course.buried (h : Course crew l m) (fresh : l.Fresh) (recorded : l.Recorded)
    (buried : l.Buried) : m.Buried := by
  induction h with
  | refl => exact buried
  | tail hcourse hstep ih => exact ih.step (Course.recorded hcourse fresh recorded) hstep

theorem Reached.buried (h : Reached crew l) : l.Buried :=
  Course.buried h (fresh_opening Store.uniqueIds_empty)
    (recorded_opening fun _ hjob => nomatch hjob) (buried_opening .empty)

/-- Every record is the copy of a job that failed. -/
theorem Buried.exists_failure (buried : l.Buried) {r : DeadLetter} (hr : r ∈ records l.history) :
    ∃ job ∈ failures l.history, r.IsOf job := by
  obtain ⟨e, he, hrecord⟩ := List.mem_filterMap.mp hr
  obtain ⟨i, hactor⟩ := buried.workers e he (.inr (by simp [hrecord]))
  obtain ⟨done, hdone, hcopies⟩ := buried.owed i
  obtain ⟨job, hjob, hcopy⟩ :=
    DeadLetter.exists_of_isOf hcopies (mem_recordsOf.mpr ⟨e, he, hactor, hrecord⟩)
  refine ⟨job, (failuresOf_sublist l.history (.worker i)).subset ?_, hcopy⟩
  rw [hdone]
  exact List.mem_append_left _ hjob

/-- When nobody owes a record, every job that failed has one. -/
theorem Buried.exists_record (buried : l.Buried)
    (paid : ∀ i, (phase l.history (.worker i)).owed = []) {job : Job}
    (hjob : job ∈ failures l.history) : job.id ∈ (records l.history).map DeadLetter.jobId := by
  obtain ⟨e, he, hfailed⟩ := List.mem_flatMap.mp hjob
  obtain ⟨i, hactor⟩ := buried.workers e he (.inl (List.ne_nil_of_mem hfailed))
  obtain ⟨done, hdone, hcopies⟩ := buried.owed i
  rw [paid, List.append_nil] at hdone
  have hmem : job.id ∈ (recordsOf l.history (.worker i)).map DeadLetter.jobId := by
    rw [DeadLetter.map_jobId hcopies, ← hdone]
    exact List.mem_map_of_mem (mem_failuresOf.mpr ⟨e, he, hactor, hfailed⟩)
  obtain ⟨r, hr, hid⟩ := List.mem_map.mp hmem
  obtain ⟨e', he', -, hrecord⟩ := mem_recordsOf.mp hr
  exact List.mem_map.mpr ⟨r, List.mem_filterMap.mpr ⟨e', he', hrecord⟩, hid⟩

/-- What was recorded of a course is recorded of what follows. -/
theorem Course.failures_subset (h : Course crew l m) : failures l.history ⊆ failures m.history := by
  obtain ⟨later, hlater⟩ := Course.history_prefix h
  rw [← hlater, failures, failures, List.flatMap_append]
  exact List.subset_append_left _ _

end Ledger

/-! ## Every reachable state -/

variable [DecidableEq ι] [DecidableEq κ]

/-- **The burial of failed jobs.** Whatever any number of workers and clients do to a store that was
empty at first, in whatever order they make their calls: no job fails twice, and none has two
records; only workers fail jobs and make records, and a record is in the store as soon as it was
made; each worker makes the records of the jobs that its own calls failed, in their order, and owes
none when it is in no iteration; and once all workers are at rest the records ever made are, one for
one, those of the failed jobs of the store, each of them a copy of the document that the store holds
then and ever after. -/
theorem System.burial {crew : ι → Worker handler} {moves : List (Move ι κ)}
    {s : System handler ι κ} (run : (System.opening .empty).run crew moves = some s) :
    ((failures s.history).map Job.id).Nodup ∧
    ((records s.history).map DeadLetter.jobId).Nodup ∧
    ((records s.history).map DeadLetter.id).Nodup ∧
    (∀ e ∈ s.history, e.failed ≠ [] ∨ e.record? ≠ none → ∃ i, e.actor = .worker i) ∧
    (∀ e ∈ s.history, ∀ r, e.record? = some r →
      ∃ before, e = .called e.actor (.insertDeadLetter r) before ∧
        (before.perform (.insertDeadLetter r)).2.findDeadLetter? r.id = some r) ∧
    (∀ i, ∃ done owed, failuresOf s.history (.worker i) = done ++ owed ∧
      List.Forall₂ DeadLetter.IsOf (recordsOf s.history (.worker i)) done ∧
      (s.threads (.worker i) = none → owed = [])) ∧
    (s.AtRest →
      ((records s.history).map DeadLetter.jobId).Perm
        ((s.store.jobs.filter fun job => job.status = .failed).map Job.id) ∧
      ∀ more t, s.run crew more = some t → ∀ r ∈ records s.history,
        ∃ job, job.status = .failed ∧ r.IsOf job ∧
          s.store.find? job.id = some job ∧ t.store.find? job.id = some job) := by
  have sound := (System.sound_opening crew .empty).run run
  have reached : Ledger.Reached crew s.toLedger := System.run_course run
  have recorded := reached.recorded
  have buried := reached.buried
  have fresh := reached.fresh
  have paid (i : ι) (hnone : s.threads (.worker i) = none) :
      (phase s.history (.worker i)).owed = [] := by
    have hidle := sound.1 (.worker i)
    rw [hnone] at hidle
    rw [show phase s.history (.worker i) = .idle from hidle]
    rfl
  refine ⟨recorded.nodup, buried.nodup, fresh.distinct, buried.workers,
    fun e _ r made => e.stored_of_record? made, fun i => ?_, fun rest => ⟨?_, fun more t hmore r hr => ?_⟩⟩
  · obtain ⟨done, hdone, hcopies⟩ := buried.owed i
    exact ⟨done, _, hdone, hcopies, paid i⟩
  · refine (List.perm_ext_iff_of_nodup buried.nodup
      (fresh.unique.sublist (List.filter_sublist.map _))).mpr fun id => ⟨fun h => ?_, fun h => ?_⟩
    · obtain ⟨r, hr, rfl⟩ := List.mem_map.mp h
      obtain ⟨job, hjob, hcopy⟩ := buried.exists_failure hr
      obtain ⟨hfind, hfailed⟩ := (recorded.mem_iff job).mp hjob
      rw [hcopy.jobId]
      refine List.mem_map_of_mem (List.mem_filter.mpr ⟨Store.mem_of_find? hfind, ?_⟩)
      exact decide_eq_true hfailed
    · obtain ⟨job, hjob, rfl⟩ := List.mem_map.mp h
      obtain ⟨hmem, hfailed⟩ := List.mem_filter.mp hjob
      have hfind := Store.find?_of_mem fresh.unique hmem
      exact buried.exists_record (fun i => paid i (rest i))
        ((recorded.mem_iff job).mpr ⟨hfind, of_decide_eq_true hfailed⟩)
  · obtain ⟨job, hjob, hcopy⟩ := buried.exists_failure hr
    obtain ⟨hfind, hfailed⟩ := (recorded.mem_iff job).mp hjob
    have course := (sound.1.run hmore).2
    have later : Ledger.Reached crew t.toLedger := Relation.ReflTransGen.trans reached course
    have hlater := (later.recorded.mem_iff job).mp (Ledger.Course.failures_subset course hjob)
    exact ⟨job, hfailed, hcopy, hfind, hlater.1⟩

/-- The job whose last worker failed it has its one record once both workers are at rest, and the
record tells of it. -/
theorem System.burial_late :
    LateWorker.final.AtRest ∧
      ((records LateWorker.final.history).map DeadLetter.jobId).Perm [.ofNat 1] ∧
      ∀ r ∈ records LateWorker.final.history, r.jobType = "mail" ∧ r.payload = .object [] ∧
        r.priority = .normal ∧ r.attempts = 2 ∧ r.maxAttempts = 2 ∧
        r.error = some ⟨"HANDLER_PANIC", "Job handler panicked", "handler panicked"⟩ ∧
        r.jobCreatedAt = LateWorker.morning := by
  have rest : LateWorker.final.AtRest := by
    intro i
    match i with
    | 0 => rfl
    | 1 => rfl
  obtain ⟨-, -, -, -, -, -, bijective⟩ := System.burial LateWorker.run_eq
  obtain ⟨perm, copies⟩ := bijective rest
  refine ⟨rest, perm, ?_⟩
  intro r hr
  obtain ⟨job, -, copy, stored, -⟩ := copies [] LateWorker.final rfl r hr
  have document : LateWorker.final.store.jobs.all (fun job => job.jobType = "mail" ∧
      job.payload = .object [] ∧ job.priority = .normal ∧ job.attempts = 2 ∧
      job.maxAttempts = 2 ∧
      job.error = some ⟨"HANDLER_PANIC", "Job handler panicked", "handler panicked"⟩ ∧
      job.createdAt = LateWorker.morning) = true := by
    decide +kernel
  obtain ⟨jobType, payload, priority, attempts, maxAttempts, error, createdAt⟩ :=
    of_decide_eq_true (List.all_eq_true.mp document job (Store.mem_of_find? stored))
  exact ⟨copy.jobType.trans jobType, copy.payload.trans payload, copy.priority.trans priority,
    copy.attempts.trans attempts, copy.maxAttempts.trans maxAttempts, copy.error.trans error,
    copy.jobCreatedAt.trans createdAt⟩

end JobQueue
