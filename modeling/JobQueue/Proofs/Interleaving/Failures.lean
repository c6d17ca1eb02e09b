import JobQueue.Proofs.Interleaving.Custody
import JobQueue.Proofs.Store.Continuation

/-!
# The jobs that failed

A job fails by the one call that makes it fail, and is never touched again. The jobs that failed can
therefore be read off the history as well as off the store.

* `Store.mem_failed_iff`: the jobs that a call failed are those that were being processed before it
  and are failed after it.
* `failures`: the jobs that failed, in the order in which they did.
* `Ledger.Course.recorded`: no job fails twice, and the failed jobs of the store are those of the
  history, with the same documents.
-/

namespace JobQueue

variable {handler ι κ : Type}

/-! ## Failing a job -/

/-- A document that failed is left alone by every call that does not put a job in its place. -/
theorem Change.eq_of_failed {c : Call} {doc : Job} {new : Option Job} (h : Change c (some doc) new)
    (failed : doc.status = .failed) (notInserted : ∀ job, c = .insert job → new ≠ some job) :
    new = some doc :=
  h.eq_of_terminal (by rw [failed]; rfl) notInserted

/-- A document that is failed after a call failed before, or was being processed. -/
theorem Change.before_failed {c : Call} {old : Option Job} {job : Job}
    (h : Change c old (some job)) (failed : job.status = .failed)
    (queued : ∀ job, c = .insert job → job.status = .queued) :
    old = some job ∨ ∃ doc, old = some doc ∧ doc.status = .processing := by
  cases h with
  | kept => exact .inl rfl
  | inserted =>
    rw [queued job rfl] at failed
    cases failed
  | @failed doc worker error now held =>
    exact .inr ⟨doc, rfl, (Job.isLockedBy_iff.mp held).1⟩
  | @renewed doc worker now held => exact .inr ⟨doc, rfl, (Job.isLockedBy_iff.mp held).1⟩
  | @exhausted doc now expired => exact .inr ⟨doc, rfl, Job.status_of_lockExpired expired⟩
  | claimed | succeeded | retried | requeued => cases failed

namespace Store

variable {s : Store} {c : Call} {job : Job}

/-- The document of a job that a call failed was being processed before, and is stored as the call
answers it. -/
theorem of_mem_failed (unique : s.UniqueIds) (h : job ∈ c.failed (s.perform c).1) :
    ∃ old, s.find? job.id = some old ∧ old.status = .processing ∧
      (s.perform c).2.find? job.id = some job ∧ job.status = .failed := by
  cases c with
  | markFailed id worker error now =>
    have hanswer : (s.markFailed id worker error now).1 = some job := Option.mem_toList.mp h
    obtain ⟨old, hfind, hlock, rfl, hafter⟩ := markFailed_eq_some hanswer
    have hid : old.id = id := id_of_find? hfind
    rw [show (failed old error now).id = id from hid]
    exact ⟨old, hfind, (Job.isLockedBy_iff.mp hlock).1, hafter, rfl⟩
  | releaseStuck now =>
    have hanswer : job ∈ (s.releaseStuck now).1.exhausted := h
    obtain ⟨old, hmem, hexpired, hspent, rfl⟩ := mem_exhausted_iff.mp hanswer
    have hfind : s.find? (exhausted old now).id = some old := find?_of_mem unique hmem
    refine ⟨old, hfind, Job.status_of_lockExpired hexpired, ?_, rfl⟩
    show (s.releaseStuck now).2.find? _ = _
    rw [find?_releaseStuck, hfind]
    simp [released, hexpired, hspent]
  | _ => cases h

/-- The jobs that a call failed are those that were being processed before it and are failed after
it. -/
theorem mem_failed_iff (unique : s.UniqueIds)
    (queued : ∀ job, c = .insert job → job.status = .queued) :
    job ∈ c.failed (s.perform c).1 ↔
      ∃ old, s.find? job.id = some old ∧ old.status = .processing ∧
        (s.perform c).2.find? job.id = some job ∧ job.status = .failed := by
  refine ⟨of_mem_failed unique, ?_⟩
  rintro ⟨old, hfind, hold, hafter, hfailed⟩
  have change := change_perform unique c job.id
  rw [hfind, hafter] at change
  cases change with
  | kept =>
    rw [hold] at hfailed
    cases hfailed
  | inserted =>
    rw [queued job rfl] at hfailed
    cases hfailed
  | @failed _ worker error now held =>
    have hanswer : (s.markFailed old.id worker error now).1 = some (failed old error now) := by
      have hlocked : s.lockedBy? old.id worker = some old :=
        lockedBy?_eq_some_iff.mpr ⟨hfind, held⟩
      rw [markFailed, hlocked]
    exact Option.mem_toList.mpr hanswer
  | exhausted expired spent =>
    exact mem_exhausted_iff.mpr ⟨old, mem_of_find? hfind, expired, spent, rfl⟩
  | renewed now held =>
    have hfailed : old.status = .failed := hfailed
    rw [hold] at hfailed
    cases hfailed
  | claimed | succeeded | retried | requeued => cases hfailed

/-- A call fails no job twice. -/
theorem nodup_failed (unique : s.UniqueIds) : ((c.failed (s.perform c).1).map Job.id).Nodup := by
  cases c with
  | markFailed id worker error now =>
    show ((s.markFailed id worker error now).1.toList.map Job.id).Nodup
    cases (s.markFailed id worker error now).1 <;> simp
  | releaseStuck now =>
    show ((s.releaseStuck now).1.exhausted.map Job.id).Nodup
    have hids : (Job.id ∘ fun job => exhausted job now) = Job.id := rfl
    simp only [releaseStuck, List.partition_eq_filter_filter, List.map_map, hids]
    exact (unique.sublist (List.filter_sublist.map _)).sublist (List.filter_sublist.map _)
  | _ => exact List.nodup_nil

end Store

/-! ## The failures of a history -/

/-- The jobs that failed by what happened, as they are stored then. -/
def Occurrence.failed : Occurrence ι κ → List Job
  | .called _ c before => c.failed (before.perform c).1
  | _ => []

/-- The jobs that failed, in the order in which they did. -/
def failures (h : List (Occurrence ι κ)) : List Job := h.flatMap Occurrence.failed

@[simp] theorem failures_append (h : List (Occurrence ι κ)) (e : Occurrence ι κ) :
    failures (h ++ [e]) = failures h ++ e.failed := by
  simp [failures]

namespace Ledger

variable {crew : ι → Worker handler} {l m : Ledger ι κ}

/-- The failed jobs of the store are those of the history, and none of them failed twice. -/
structure Recorded (l : Ledger ι κ) : Prop where
  nodup : ((failures l.history).map Job.id).Nodup
  mem_iff : ∀ job, job ∈ failures l.history ↔
    l.store.find? job.id = some job ∧ job.status = .failed

theorem recorded_opening {start : Store} (none : ∀ job ∈ start.jobs, job.status ≠ .failed) :
    (opening start : Ledger ι κ).Recorded where
  nodup := List.nodup_nil
  mem_iff job := by
    constructor
    · intro h
      cases h
    · rintro ⟨hfind, hfailed⟩
      exact absurd hfailed (none job (Store.mem_of_find? hfind))

theorem Recorded.congr (recorded : l.Recorded) (hstore : m.store = l.store)
    (hfailures : failures m.history = failures l.history) : m.Recorded where
  nodup := hfailures ▸ recorded.nodup
  mem_iff job := by
    rw [hfailures, hstore]
    exact recorded.mem_iff job

variable [DecidableEq ι] [DecidableEq κ]

theorem Recorded.called (recorded : l.Recorded) (fresh : l.Fresh) {a : Actor ι κ} {c : Call}
    (permitted : a.permits crew (phase l.history a) c) : (l.called a c).Recorded := by
  have hfailures : failures (l.called a c).history =
      failures l.history ++ c.failed (l.store.perform c).1 := failures_append _ _
  have queued := queued_of_insert permitted
  refine ⟨?_, fun job => ?_⟩
  · rw [hfailures, List.map_append, List.nodup_append]
    refine ⟨recorded.nodup, Store.nodup_failed fresh.unique, ?_⟩
    -- a job that failed before is not being processed
    rintro id hold id' hnew rfl
    obtain ⟨job, hjob, rfl⟩ := List.mem_map.mp hold
    obtain ⟨job', hjob', hid⟩ := List.mem_map.mp hnew
    obtain ⟨hfind, hfailed⟩ := (recorded.mem_iff job).mp hjob
    obtain ⟨old, hfind', hold, -⟩ := Store.of_mem_failed fresh.unique hjob'
    rw [hid, hfind, Option.some.injEq] at hfind'
    rw [hfind', hold] at hfailed
    cases hfailed
  · rw [hfailures, List.mem_append, recorded.mem_iff job, Store.mem_failed_iff fresh.unique queued]
    have change := Store.change_perform fresh.unique c job.id
    show _ ↔ (l.store.perform c).2.find? job.id = some job ∧ _
    constructor
    · rintro (⟨hfind, hfailed⟩ | ⟨old, -, -, hafter, hfailed⟩)
      · rw [hfind] at change
        refine ⟨change.eq_of_failed hfailed ?_, hfailed⟩
        rintro other rfl hother
        have absent := fresh.new_of_insert permitted
        rw [Store.id_of_find? hother, hfind] at absent
        cases absent
      · exact ⟨hafter, hfailed⟩
    · rintro ⟨hafter, hfailed⟩
      rw [hafter] at change
      rcases change.before_failed hfailed queued with hfind | ⟨old, hfind, hold⟩
      · exact .inl ⟨hfind, hfailed⟩
      · exact .inr ⟨old, hfind, hold, hafter, hfailed⟩

theorem Recorded.step (recorded : l.Recorded) (fresh : l.Fresh) (h : Step crew l m) :
    m.Recorded := by
  cases h with
  | called permitted => exact recorded.called fresh permitted
  | drew | ended => exact recorded.congr rfl ((failures_append _ _).trans (List.append_nil _))

/-- **The failed jobs of the store are those of the history**, along every course. -/
theorem Course.recorded (h : Course crew l m) (fresh : l.Fresh) (recorded : l.Recorded) :
    m.Recorded := by
  induction h with
  | refl => exact recorded
  | tail hcourse hstep ih => exact ih.step (Course.fresh hcourse fresh) hstep

theorem Reached.recorded (h : Reached crew l) : l.Recorded :=
  Course.recorded h (fresh_opening Store.uniqueIds_empty)
    (recorded_opening fun _ hjob => nomatch hjob)

end Ledger

end JobQueue
