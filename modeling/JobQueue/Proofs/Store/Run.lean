import JobQueue.Proofs.Store.Change
import Mathlib.Data.List.Induction

/-!
# Calls one after the other

A run of a store is a list of calls with whatever arguments: any worker may call in any name, at any
time on its clock, for any job. Its log is the list of these calls with the store that each of them
found.

* `Store.after` and `Store.log`: the store after a run, and its log; `Store.of_log_eq` takes a log
  apart at one of its entries.
* `DistinctIds`: what a run puts in has identifiers of its own, and so finds no other job in its
  place (`DistinctIds.find?_eq_none`). `Submitted`: and these are jobs as they are first submitted.
* `Store.Entry.handsOut` and `Store.claims`: whether a call handed a job out, and how often a run
  did.
-/

namespace JobQueue

/-! ## Submissions -/

/-- A job as `Job.queued` makes it, with whatever limits, rank, times and key. -/
def Job.IsSubmission (job : Job) : Prop :=
  job =
    { Job.queued job.id job.jobType job.payload job.createdAt with
      maxAttempts := job.maxAttempts
      priority := job.priority
      availableAt := job.availableAt
      visibilityTimeoutMs := job.visibilityTimeoutMs
      idempotencyKey := job.idempotencyKey
      updatedAt := job.updatedAt }

instance (job : Job) : Decidable job.IsSubmission :=
  inferInstanceAs (Decidable (job = _))

/-- The job that a call puts in. -/
def Call.inserted? : Call → Option Job
  | .insert job => some job
  | _ => none

/-- The jobs that some calls put in have identifiers of their own. -/
def DistinctIds (calls : List Call) : Prop :=
  ((calls.filterMap Call.inserted?).map Job.id).Nodup

instance (calls : List Call) : Decidable (DistinctIds calls) :=
  inferInstanceAs (Decidable (List.Nodup _))

/-- What some calls put in are submissions, each under an identifier of its own. -/
structure Submitted (calls : List Call) : Prop where
  asNew : ∀ job, .insert job ∈ calls → job.IsSubmission
  distinct : ((calls.filterMap Call.inserted?).map Job.id).Nodup

namespace Store

variable {s : Store} {c : Call} {calls : List Call}

/-! ## The store after a run -/

/-- The store after some calls. -/
def after (s : Store) (calls : List Call) : Store := calls.foldl (fun s c => (s.perform c).2) s

@[simp] theorem after_nil (s : Store) : s.after [] = s := rfl

@[simp] theorem after_cons (s : Store) (c : Call) (calls : List Call) :
    s.after (c :: calls) = (s.perform c).2.after calls := rfl

@[simp] theorem after_append (s : Store) (calls more : List Call) :
    s.after (calls ++ more) = (s.after calls).after more := List.foldl_append

theorem after_concat (s : Store) (calls : List Call) (c : Call) :
    s.after (calls ++ [c]) = ((s.after calls).perform c).2 := after_append s calls [c]

/-- Every run keeps the identifiers apart. -/
theorem uniqueIds_after (unique : s.UniqueIds) (calls : List Call) : (s.after calls).UniqueIds := by
  induction calls generalizing s with
  | nil => exact unique
  | cons c calls ih => exact ih (uniqueIds_perform unique c)

/-- Every job after a run was put in by it, or has the identifier of one that was there before. -/
theorem id_mem_after (unique : s.UniqueIds) {job : Job} (h : job ∈ (s.after calls).jobs) :
    job.id ∈ s.jobs.map Job.id ∨ job.id ∈ (calls.filterMap Call.inserted?).map Job.id := by
  induction calls using List.reverseRecOn generalizing job with
  | nil => exact .inl (List.mem_map_of_mem h)
  | append_singleton calls c ih =>
    rw [after_concat] at h
    have put : (calls ++ [c]).filterMap Call.inserted? =
        calls.filterMap Call.inserted? ++ c.inserted?.toList := by
      rw [List.filterMap_append]
      cases hc : c.inserted? <;> simp [hc]
    rw [put, List.map_append, List.mem_append]
    rcases id_mem_or_eq_insert (uniqueIds_after unique calls) h with ⟨old, hold, hid⟩ | rfl
    · rw [← hid]
      exact (ih hold).imp_right .inl
    · exact .inr (.inr (List.mem_singleton.mpr rfl))

/-! ## The log of a run -/

/-- A call that was made, with the store that it found. -/
structure Entry where
  call : Call
  before : Store

namespace Entry

/-- The store that the call left. -/
def after (e : Entry) : Store := (e.before.perform e.call).2

/-- Whether the call handed a job out. -/
def handsOut (e : Entry) (id : Uuid) : Bool :=
  (e.call.claimed? (e.before.perform e.call).1).any fun job => job.id = id

end Entry

/-- The calls of a run with the stores that they found. -/
def log (s : Store) : List Call → List Entry
  | [] => []
  | c :: calls => ⟨c, s⟩ :: (s.perform c).2.log calls

@[simp] theorem log_nil (s : Store) : s.log [] = [] := rfl

@[simp] theorem log_cons (s : Store) (c : Call) (calls : List Call) :
    s.log (c :: calls) = ⟨c, s⟩ :: (s.perform c).2.log calls := rfl

theorem log_append (s : Store) (calls more : List Call) :
    s.log (calls ++ more) = s.log calls ++ (s.after calls).log more := by
  induction calls generalizing s with
  | nil => rfl
  | cons c calls ih => rw [List.cons_append, log_cons, ih, log_cons, List.cons_append, after_cons]

theorem log_concat (s : Store) (calls : List Call) (c : Call) :
    s.log (calls ++ [c]) = s.log calls ++ [⟨c, s.after calls⟩] := log_append s calls [c]

/-- An entry of a log was made after a first part of the run, and found the store that this part
left. -/
theorem of_log_eq {earlier later : List Entry} {e : Entry}
    (h : s.log calls = earlier ++ e :: later) :
    ∃ past rest, calls = past ++ e.call :: rest ∧ s.log past = earlier ∧
      e.before = s.after past := by
  induction earlier generalizing s calls with
  | nil =>
    cases calls with
    | nil => cases h
    | cons c calls =>
      rw [log_cons, List.nil_append, List.cons.injEq] at h
      obtain ⟨rfl, -⟩ := h
      exact ⟨[], calls, rfl, rfl, rfl⟩
  | cons first earlier ih =>
    cases calls with
    | nil => cases h
    | cons c calls =>
      rw [log_cons, List.cons_append, List.cons.injEq] at h
      obtain ⟨rfl, hrest⟩ := h
      obtain ⟨past, rest, rfl, rfl, hbefore⟩ := ih hrest
      exact ⟨c :: past, rest, rfl, rfl, hbefore⟩

/-! ## Claims of a run -/

/-- How often a run hands out a job. -/
def claims (s : Store) (calls : List Call) (id : Uuid) : Nat :=
  (s.log calls).countP fun e => e.handsOut id

/-- The claim that answers with a job hands it out. -/
theorem handsOut_of_claimNext {job : Job} {worker : String} {now : Instant}
    (answer : (s.claimNext worker now).1 = some job) :
    Entry.handsOut ⟨.claimNext worker now, s⟩ job.id = true := by
  show (s.claimNext worker now).1.any _ = true
  rw [answer, Option.any_some, decide_eq_true_eq]

/-- No other call hands a job out. -/
theorem handsOut_eq_false {id : Uuid} (noClaim : ∀ worker now, c ≠ .claimNext worker now) :
    Entry.handsOut ⟨c, s⟩ id = false := by
  cases c with
  | claimNext worker now => exact absurd rfl (noClaim worker now)
  | _ => rfl

theorem claims_append (s : Store) (calls more : List Call) (id : Uuid) :
    s.claims (calls ++ more) id = s.claims calls id + (s.after calls).claims more id := by
  rw [claims, log_append, List.countP_append, claims, claims]

theorem claims_singleton (s : Store) (c : Call) (id : Uuid) :
    s.claims [c] id = if Entry.handsOut ⟨c, s⟩ id then 1 else 0 := List.countP_singleton ..

theorem claims_concat (s : Store) (calls : List Call) (c : Call) (id : Uuid) :
    s.claims (calls ++ [c]) id =
      s.claims calls id + if Entry.handsOut ⟨c, s.after calls⟩ id then 1 else 0 := by
  rw [claims_append, claims_singleton]

/-- Calls that claim nothing hand nothing out. -/
theorem claims_eq_zero {id : Uuid}
    (noClaim : ∀ c ∈ calls, ∀ worker now, c ≠ .claimNext worker now) : s.claims calls id = 0 := by
  induction calls using List.reverseRecOn with
  | nil => rfl
  | append_singleton calls c ih =>
    have last : Entry.handsOut ⟨c, s.after calls⟩ id = false :=
      handsOut_eq_false (noClaim c (by simp))
    rw [claims_concat, last, ih fun c hc => noClaim c (List.mem_append_left _ hc)]
    rfl

@[simp] theorem length_log (s : Store) (calls : List Call) :
    (s.log calls).length = calls.length := by
  induction calls generalizing s with
  | nil => rfl
  | cons c calls ih => rw [log_cons, List.length_cons, ih, List.length_cons]

/-- A job is handed out at most once by each call. -/
theorem claims_le_length (s : Store) (calls : List Call) (id : Uuid) :
    s.claims calls id ≤ calls.length := by
  rw [← s.length_log calls]
  exact List.countP_le_length

end Store

/-! ## Runs that put jobs in -/

/-- A first part of a run puts jobs in under identifiers of their own, too. -/
theorem DistinctIds.of_append {past rest : List Call} (h : DistinctIds (past ++ rest)) :
    DistinctIds past := by
  rw [DistinctIds, List.filterMap_append, List.map_append] at h
  exact (List.nodup_append.mp h).1

/-- A job that is put in finds no other one in its place. -/
theorem DistinctIds.find?_eq_none {past rest : List Call} {job : Job}
    (h : DistinctIds (past ++ .insert job :: rest)) :
    (Store.empty.after past).find? job.id = none := by
  refine Store.find?_eq_none_iff.mpr fun other hother hid => ?_
  rw [DistinctIds, List.filterMap_append, List.map_append, List.nodup_append] at h
  rcases Store.id_mem_after Store.uniqueIds_empty hother with hmem | hmem
  · cases hmem
  · exact h.2.2 _ hmem job.id List.mem_cons_self hid

namespace Submitted

variable {calls : List Call}

/-- A first part of a run puts in submissions, too. -/
theorem of_append {past rest : List Call} (h : Submitted (past ++ rest)) : Submitted past where
  asNew job hjob := h.asNew job (List.mem_append_left rest hjob)
  distinct := DistinctIds.of_append h.distinct

/-- What is put in is a submission that finds no other job in its place. -/
theorem of_insert {job : Job} {rest : List Call} (h : Submitted (calls ++ .insert job :: rest)) :
    job.IsSubmission ∧ (Store.empty.after calls).find? job.id = none :=
  ⟨h.asNew job (by simp), DistinctIds.find?_eq_none h.distinct⟩

end Submitted

/-! ## A run with a relay

The worker `a` claims the one job there is, renews its lock once, and lets it run out. The lock is
taken back, and the worker `b` claims the job. What `a` calls after that is refused, and since the
second attempt was the last one, the job fails when `b` says so.
-/

namespace Relay

/-- The job, which may be attempted twice. -/
def job : Job := { Job.queued (.ofNat 1) "mail" (.object []) .epoch with maxAttempts := 2 }

/-- When the lock has run out. -/
def evening : Instant := (Instant.ofMilliseconds? 120000).getD .epoch

/-- The calls. -/
def calls : List Call :=
  [.insert job, .claimNext "a" .epoch, .heartbeat job.id "a" .epoch, .releaseStuck evening,
    .claimNext "b" evening, .heartbeat job.id "a" evening, .markSucceeded job.id "a" .null evening,
    .markFailed job.id "b" (.handlerError "out of paper") evening, .claimNext "a" evening]

theorem submitted : Submitted calls where
  asNew other h := by
    have heq : other = job := by simpa [calls] using h
    rw [heq]
    rfl
  distinct := List.nodup_singleton job.id

end Relay

end JobQueue
