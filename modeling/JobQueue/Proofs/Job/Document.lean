import JobQueue.Proofs.Document.Fields
import JobQueue.Proofs.Store.Run

/-!
# Jobs, written and read

A job that is read from its document is the job that was written, in every field but one: a result
that is the JSON value null looks like no result.

* `Job.documented`: the job that a document holds.
* `Job.ofJson?_toJson`: it is read from the document.
* `Job.survives_document`: it is the job that was written unless the result was null, which a
  handler may well return (`Job.result_lost`).
-/

namespace JobQueue

open Document

/-! ## Parts of a job -/

theorem Priority.ofJson?_toJson (p : Priority) : ofJson? p.toJson = some p := by
  rw [ofJson?, toJson, toInt, int32?_ofInt]
  rfl

theorem Status.ofJson?_toJson (status : Status) : ofJson? status.toJson = some status :=
  status.parse?_text

theorem Failure.ofJson?_toJson (f : Failure) : ofJson? f.toJson = some f := by
  refine record?_object ?_
  refine (finds_field rfl (string?_string f.code)).bind ?_
  refine (finds_field rfl (string?_string f.title)).bind ?_
  refine (finds_field rfl (string?_string f.detail)).bind ?_
  exact finds_pure f

/-! ## A whole job -/

namespace Job

/-- The job that its document holds: a result that is null is none. -/
def documented (job : Job) : Job :=
  { job with result := job.result.filter fun result => !isNull result }

/-- A job is read back from its document as the document holds it. -/
theorem ofJson?_toJson (job : Job) : ofJson? job.toJson = some job.documented := by
  have result : nullable isNull json? (job.result.getD .null) = some job.documented.result := by
    unfold documented
    cases job.result with
    | none => rfl
    | some value => cases value <;> rfl
  have text (value : Option String) :
      nullable isNull string? (Json.ofOption .string value) = some value :=
    nullable_ofOption (fun _ => rfl) fun _ => rfl
  have time (value : Option Instant) :
      nullable isNull instant? (Json.ofOption ofInstant value) = some value :=
    nullable_ofOption (fun _ => rfl) instant?_ofInstant
  have failure : nullable isNull Failure.ofJson? (Json.ofOption Failure.toJson job.error) =
      some job.error := nullable_ofOption (fun _ => rfl) Failure.ofJson?_toJson
  refine record?_object ?_
  refine (finds_field rfl (uuid?_ofUuid job.id)).bind ?_
  refine (finds_field rfl (string?_string job.jobType)).bind ?_
  refine (finds_field rfl job.status.ofJson?_toJson).bind ?_
  refine (finds_field rfl (json?_eq job.payload)).bind ?_
  refine (finds_optional rfl result).bind ?_
  refine (finds_field rfl (uint32?_ofUInt32 job.attempts)).bind ?_
  refine (finds_field rfl (uint32?_ofUInt32 job.maxAttempts)).bind ?_
  refine (finds_field rfl job.priority.ofJson?_toJson).bind ?_
  refine (finds_field rfl (instant?_ofInstant job.availableAt)).bind ?_
  refine (finds_optional rfl (text job.lockOwner)).bind ?_
  refine (finds_optional rfl (time job.lockedAt)).bind ?_
  refine (finds_optional rfl (time job.lastHeartbeatAt)).bind ?_
  refine (finds_field rfl (uint64?_ofUInt64 job.visibilityTimeoutMs)).bind ?_
  refine (finds_optional rfl failure).bind ?_
  refine (finds_optional rfl (text job.idempotencyKey)).bind ?_
  refine (finds_optional rfl (time job.startedAt)).bind ?_
  refine (finds_optional rfl (time job.finishedAt)).bind ?_
  refine (finds_field rfl (instant?_ofInstant job.createdAt)).bind ?_
  refine (finds_field rfl (instant?_ofInstant job.updatedAt)).bind ?_
  exact finds_pure job.documented

/-- What the document holds of a job, it holds unless the result is null. -/
theorem documented_eq_iff (job : Job) : job.documented = job ↔ job.result ≠ some .null := by
  have kept : job.documented = job ↔ job.documented.result = job.result := by
    refine ⟨fun same => by rw [same], fun same => ?_⟩
    show ({ job with result := job.documented.result } : Job) = job
    rw [same]
  rw [kept]
  unfold documented
  cases job.result with
  | none => simp
  | some value => cases value <;> simp [isNull]

/-- **What survives of a job** that is written out as a document and read in again: all of it,
unless its result is the value null, and all but this result otherwise. -/
theorem survives_document (job : Job) :
    (ofJson? job.toJson = some job ↔ job.result ≠ some .null) ∧
      (job.result = some .null → ofJson? job.toJson = some { job with result := none }) := by
  rw [ofJson?_toJson, Option.some.injEq, documented_eq_iff]
  refine ⟨Iff.rfl, fun null => ?_⟩
  rw [documented, null]
  rfl

end Job

/-! ### A handler with nothing to say

The handler of the only job returns null, and the job succeeds with this result.
-/

namespace Silence

/-- The job. -/
def job : Job := Job.queued (.ofNat 1) "ping" (.object []) .epoch

/-- The calls. -/
def calls : List Call :=
  [.insert job, .claimNext "w" .epoch, .markSucceeded job.id "w" .null .epoch]

/-- The job as it is stored then. -/
def answered : Job := Store.succeeded (Store.claimed job "w" .epoch) .null .epoch

end Silence

/-- The result of a job that succeeded **is lost** with its document. -/
theorem Job.result_lost :
    Silence.answered ∈ (Store.empty.after Silence.calls).jobs ∧
      Silence.answered.result = some .null ∧
      ofJson? Silence.answered.toJson ≠ some Silence.answered := by
  refine ⟨List.mem_cons_self, rfl, fun same => ?_⟩
  rw [ofJson?_toJson, Option.some.injEq] at same
  have lost : (none : Option Json) = some .null := congrArg Job.result same
  cases lost

end JobQueue
