import JobQueue.Postgres.Store
import JobQueue.Proofs.Job.Document

/-!
# Rows that come back

An insertion asks for the row that it made. When the table holds each value under the column that
the statement names for it and gives the row back, then what is read from the row is what was
written, but for counters and timeouts that the columns cannot hold.

* `Statement.assignments`: the values of an insertion under the columns that its text names for
  them. `assignments_insertsJob` and `assignments_insertsDeadLetter` read them off the texts.
* `jobOfRow_rowOf` and `deadLetterOfRow_rowOf`: what is read from the row of a job or a record.
* `insertions_give_back`: which statements the insertions make, and what they are answered.
* `keeps_jobParameters_iff` and `keeps_deadLetterParameters_iff`: the jobs and the records whose
  values the database keeps as they are.
-/

namespace JobQueue.Postgres

/-! ## The text of an insertion -/

/-- What stands in the lists in brackets of a text, with commas between and no blanks. -/
def bracketed (text : List Char) : List (List (List Char)) :=
  ((text.splitOn '(').drop 1).map fun rest =>
    ((rest.takeWhile (· ≠ ')')).splitOn ',').map fun item => item.filter (· ≠ ' ')

/-- The parameter that a place such as `$3` stands for. -/
def parameterAt (parameters : List (Option Datum)) (place : List Char) : Option Datum :=
  (parameters[Text.digitsToNat (place.drop 1) - 1]?).join

/-- The values of an insertion under the names of the columns that they go to: the first list in
brackets names the columns, and the second one the places of their values. -/
def Statement.assignments (s : Statement) : Bindings :=
  match bracketed s.sql.toList with
  | columns :: places :: _ =>
    columns.zipWith (fun name place => (String.ofList name, parameterAt s.parameters place)) places
  | _ => []

/-- The place of a parameter. -/
theorem parameterAt_place (parameters : List (Option Datum)) (n : Nat) :
    parameterAt parameters ('$' :: Nat.toDigits 10 (n + 1)) = (parameters[n]?).join := by
  rw [parameterAt, List.drop_one, List.tail_cons, Text.digitsToNat_toDigits, Nat.add_sub_cancel]

/-- The places of so many parameters. -/
def places (n : Nat) : List (List Char) :=
  (List.range n).map fun i => '$' :: Nat.toDigits 10 (i + 1)

/-- The values of a statement whose text lists so many names, and the places of so many parameters.
-/
theorem assignments_of_bracketed {sql : String} {names : List String}
    {parameters : List (Option Datum)}
    (lists : bracketed sql.toList = [names.map String.toList, places names.length])
    (all : parameters.length = names.length) :
    Statement.assignments ⟨sql, parameters⟩ = names.zip parameters := by
  rw [Statement.assignments]
  dsimp only
  rw [lists]
  refine List.ext_getElem (by simp [places, all]) fun i h h' => ?_
  simp only [List.length_zip, all, Nat.min_self] at h'
  simp [places, parameterAt_place, all, h']

/-- What the insertion of a job lists. -/
theorem bracketed_insertsJob : bracketed insertsJob.toList =
    [(jobColumns.map (·.1)).map String.toList, places (jobColumns.map (·.1)).length] := by
  unfold insertsJob
  simp only [String.toList_append, -String.reduceAppend, -String.reduceToList]
  -- the parts are taken as lists of characters, which takes less than to decode them
  show bracketed ((String.ofList _).toList ++ (String.ofList _).toList ++
    (String.ofList _).toList ++ (String.ofList _).toList ++ (String.ofList _).toList) = _
  simp only [String.toList_ofList]
  decide +kernel

/-- What the insertion of a record lists. -/
theorem bracketed_insertsDeadLetter : bracketed insertsDeadLetter.toList =
    [(deadLetterColumns.map (·.1)).map String.toList,
      places (deadLetterColumns.map (·.1)).length] := by
  unfold insertsDeadLetter
  simp only [String.toList_append, -String.reduceAppend, -String.reduceToList]
  show bracketed ((String.ofList _).toList ++ (String.ofList _).toList ++
    (String.ofList _).toList) = _
  simp only [String.toList_ofList]
  decide +kernel

/-- **The insertion of a job says where its values go.** -/
theorem assignments_insertsJob (job : Job) :
    Statement.assignments ⟨insertsJob, jobParameters job⟩ = jobBindings job := by
  rw [assignments_of_bracketed bracketed_insertsJob rfl]
  rfl

/-- **The insertion of a record says where its values go.** -/
theorem assignments_insertsDeadLetter (r : DeadLetter) :
    Statement.assignments ⟨insertsDeadLetter, deadLetterParameters r⟩ = deadLetterBindings r := by
  rw [assignments_of_bracketed bracketed_insertsDeadLetter rfl]
  rfl

/-! ## Single values -/

/-- A counter as far as its column can hold it. -/
def cutCounter (n : UInt32) : UInt32 := if n ≤ 2147483647 then n else 2147483647

/-- A visibility timeout as far as settings admit it, which is seven days. -/
def cutTimeout (ms : UInt64) : UInt64 := if ms ≤ 604800000 then ms else 604800000

/-- The number in the column of a counter is the counter as far as it goes. -/
theorem toInt_counter (n : UInt32) :
    (Int32.ofNat (Nat.min n.toNat (Word.largest 31))).toInt = (cutCounter n).toNat := by
  have largest : Word.largest 31 = 2147483647 := by decide
  have fits : Nat.min n.toNat 2147483647 < 2 ^ 31 :=
    Nat.lt_of_le_of_lt (Nat.min_le_right _ _) (by decide)
  rw [largest, Int32.toInt_ofNat_of_lt fits, cutCounter]
  split
  · rename_i small
    exact congrArg Nat.cast (Nat.min_eq_left (UInt32.le_iff_toNat_le.mp small))
  · rename_i large
    have large : ¬n.toNat ≤ 2147483647 := fun h => large (UInt32.le_iff_toNat_le.mpr h)
    exact congrArg Nat.cast (Nat.min_eq_right (Nat.le_of_not_le large))

/-- A timeout is read from its column as far as settings admit it. -/
theorem countOf_timeout (ms : UInt64) :
    countOf (Int64.ofNat (Nat.min ms.toNat Settings.maxVisibilityTimeoutMs.toNat)) =
      cutTimeout ms := by
  have fits : Nat.min ms.toNat Settings.maxVisibilityTimeoutMs.toNat < 2 ^ 63 :=
    Nat.lt_of_le_of_lt (Nat.min_le_right _ _) (by decide)
  rw [countOf, Int64.toInt_ofNat_of_lt fits, Int.toNat_natCast, cutTimeout]
  split
  · rename_i small
    have least := Nat.min_eq_left (UInt64.le_iff_toNat_le.mp small)
    exact (congrArg UInt64.ofNat least).trans UInt64.ofNat_toNat
  · rename_i large
    have large : ¬ms.toNat ≤ Settings.maxVisibilityTimeoutMs.toNat :=
      fun h => large (UInt64.le_iff_toNat_le.mpr h)
    exact congrArg UInt64.ofNat (Nat.min_eq_right (Nat.le_of_not_le large))

/-! ## Cells -/

section Cells

variable {α : Type} {row : Row} {column : String} {type : ColumnType} {r : Reading α}

/-- A cell with a value that suits is read. -/
theorem Row.required_eq {datum : Datum} {a : α} (cell : row.cell? column = some ⟨type, some datum⟩)
    (suits : r.suits type = true) (reads : r.read datum = some a) :
    row.required column r = .ok a := by
  rw [Row.required, Row.optional, cell]
  dsimp only
  rw [suits, reads]
  rfl

/-- A cell that may be empty is read. -/
theorem Row.optional_eq {value : Option α} {write : α → Datum}
    (cell : row.cell? column = some ⟨type, value.map write⟩) (suits : r.suits type = true)
    (reads : ∀ a, value = some a → r.read (write a) = some a) :
    row.optional column r = .ok value := by
  rw [Row.optional, cell]
  cases value with
  | none => rfl
  | some a =>
    dsimp only [Option.map_some]
    rw [suits, reads a rfl]
    rfl

theorem counterOf_eq {n : UInt32}
    (cell : row.cell? column = some ⟨.int4, some (counterDatum n)⟩) :
    counterOf row column = .ok (cutCounter n) := by
  have value := toInt_counter n
  generalize hm : Int32.ofNat (Nat.min n.toNat (Word.largest 31)) = m at value
  have read : row.required column .int4 = .ok m :=
    Row.required_eq cell rfl (by rw [counterDatum, hm]; rfl)
  have positive : ¬m < 0 := by
    rw [Int32.lt_iff_toInt_lt, value]
    exact Int.not_lt.mpr (Int.natCast_nonneg _)
  rw [counterOf, read]
  show (if m < 0 then _ else _) = _
  rw [if_neg positive, value, Int.toNat_natCast, UInt32.ofNat_toNat]
  rfl

theorem failureOf_eq {value : Option Failure}
    (cell : row.cell? column = some ⟨.jsonb, value.map failureDatum⟩) :
    failureOf row column = .ok value := by
  have written : row.cell? column = some ⟨.jsonb, (value.map Failure.toJson).map Datum.json⟩ := by
    rw [cell, Option.map_map]
    rfl
  have read : row.optional column .json = .ok (value.map Failure.toJson) :=
    Row.optional_eq written rfl fun _ _ => rfl
  rw [failureOf, read]
  cases value with
  | none => rfl
  | some f =>
    simp [bind, Except.bind, pure, Except.pure, f.ofJson?_toJson]

end Cells

/-! ## Rows -/

theorem bind_of_eq_ok {ε α β : Type} {x : Except ε α} {a : α} {f : α → Except ε β}
    (h : x = .ok a) : (x >>= f) = f a := by
  rw [h]
  rfl

theorem statusOf_text (status : Status) : statusOf status.text = .ok status := by
  rw [statusOf, status.parse?_text]

/-- A job as far as its columns can hold it. -/
def cutJob (job : Job) : Job :=
  { job with
    attempts := cutCounter job.attempts
    maxAttempts := cutCounter job.maxAttempts
    visibilityTimeoutMs := cutTimeout job.visibilityTimeoutMs }

/-- A dead-letter record as far as its columns can hold it. -/
def cutDeadLetter (r : DeadLetter) : DeadLetter :=
  { r with
    attempts := cutCounter r.attempts
    maxAttempts := cutCounter r.maxAttempts
    retryCount := cutCounter r.retryCount }

/-- A job is read from the row that its values make. -/
theorem jobOfRow_rowOf (job : Job) :
    jobOfRow (rowOf jobColumns (jobBindings job)) = .ok (cutJob job) := by
  refine (bind_of_eq_ok (Row.required_eq rfl rfl rfl)).trans ?_
  refine (bind_of_eq_ok (Row.required_eq rfl rfl rfl)).trans ?_
  refine (bind_of_eq_ok (Row.required_eq rfl rfl rfl)).trans ?_
  refine (bind_of_eq_ok (Row.required_eq rfl rfl rfl)).trans ?_
  refine (bind_of_eq_ok (statusOf_text job.status)).trans ?_
  refine (bind_of_eq_ok (Row.required_eq rfl rfl rfl)).trans ?_
  refine (bind_of_eq_ok (Row.optional_eq rfl rfl fun _ _ => rfl)).trans ?_
  refine (bind_of_eq_ok (counterOf_eq rfl)).trans ?_
  refine (bind_of_eq_ok (counterOf_eq rfl)).trans ?_
  refine (bind_of_eq_ok (Row.required_eq rfl rfl rfl)).trans ?_
  refine (bind_of_eq_ok (Row.required_eq rfl rfl rfl)).trans ?_
  refine (bind_of_eq_ok (Row.optional_eq rfl rfl fun _ _ => rfl)).trans ?_
  refine (bind_of_eq_ok (Row.optional_eq rfl rfl fun _ _ => rfl)).trans ?_
  refine (bind_of_eq_ok (Row.optional_eq rfl rfl fun _ _ => rfl)).trans ?_
  refine (bind_of_eq_ok (failureOf_eq rfl)).trans ?_
  refine (bind_of_eq_ok (Row.optional_eq rfl rfl fun _ _ => rfl)).trans ?_
  refine (bind_of_eq_ok (Row.optional_eq rfl rfl fun _ _ => rfl)).trans ?_
  refine (bind_of_eq_ok (Row.optional_eq rfl rfl fun _ _ => rfl)).trans ?_
  refine (bind_of_eq_ok (Row.required_eq rfl rfl rfl)).trans ?_
  refine (bind_of_eq_ok (Row.required_eq rfl rfl rfl)).trans ?_
  rw [countOf_timeout]
  rfl

/-- A record is read from the row that its values make. -/
theorem deadLetterOfRow_rowOf (r : DeadLetter) :
    deadLetterOfRow (rowOf deadLetterColumns (deadLetterBindings r)) = .ok (cutDeadLetter r) := by
  refine (bind_of_eq_ok (Row.required_eq rfl rfl rfl)).trans ?_
  refine (bind_of_eq_ok (Row.required_eq rfl rfl rfl)).trans ?_
  refine (bind_of_eq_ok (Row.required_eq rfl rfl rfl)).trans ?_
  refine (bind_of_eq_ok (Row.required_eq rfl rfl rfl)).trans ?_
  refine (bind_of_eq_ok (Row.required_eq rfl rfl rfl)).trans ?_
  refine (bind_of_eq_ok (counterOf_eq rfl)).trans ?_
  refine (bind_of_eq_ok (counterOf_eq rfl)).trans ?_
  refine (bind_of_eq_ok (failureOf_eq rfl)).trans ?_
  refine (bind_of_eq_ok (Row.required_eq rfl rfl rfl)).trans ?_
  refine (bind_of_eq_ok (Row.required_eq rfl rfl rfl)).trans ?_
  refine (bind_of_eq_ok (counterOf_eq rfl)).trans ?_
  refine (bind_of_eq_ok (Row.optional_eq rfl rfl fun _ _ => rfl)).trans ?_
  rfl

/-! ## Values that the database keeps -/

/-- A time is a whole number of microseconds, and not within a leap second, for which the database
has no number. -/
def InMicroseconds (t : Instant) : Prop := t.nano < 1000000000 ∧ t.nano % 1000 = 0

instance (t : Instant) : Decidable (InMicroseconds t) := inferInstanceAs (Decidable (_ ∧ _))

/-- These are the times that the database keeps exactly. -/
theorem instantOf?_eq_some_iff (t : Instant) :
    instantOf? (microsecondsOf t) = some t ↔ InMicroseconds t := by
  unfold instantOf? Instant.ofNanoseconds?
  constructor
  · intro kept
    generalize hn : microsecondsOf t * 1000 + eraStart = n at kept
    have nano : (n % 1000000000).toNat = t.nano := by
      unfold Instant.ofParts? at kept
      split at kept
      · rw [Option.some.injEq] at kept
        rw [← kept]
      · cases kept
    unfold eraStart at hn
    constructor <;> omega
  · rintro ⟨noLeap, whole⟩
    have exact : microsecondsOf t * 1000 = t.toNanoseconds - eraStart := by
      refine Int.tdiv_mul_cancel (Int.dvd_of_emod_eq_zero ?_)
      unfold Instant.toNanoseconds eraStart
      omega
    have seconds : (microsecondsOf t * 1000 + eraStart) / 1000000000 = t.second := by
      rw [exact, Instant.toNanoseconds]
      omega
    have nanos : ((microsecondsOf t * 1000 + eraStart) % 1000000000).toNat = t.nano := by
      rw [exact, Instant.toNanoseconds]
      omega
    rw [seconds, nanos, t.ofParts?_parts]

/-- A time comes back from the database if it keeps it exactly. -/
theorem kept_ofInstant_iff (t : Instant) :
    (Datum.ofInstant t).kept = .ofInstant t ↔ InMicroseconds t := by
  rw [← instantOf?_eq_some_iff, Datum.ofInstant, Datum.kept]
  cases instantOf? (microsecondsOf t) <;> simp

theorem map_kept_ofInstant_iff (t : Option Instant) :
    (t.map Datum.ofInstant).map Datum.kept = t.map Datum.ofInstant ↔
      ∀ time ∈ t.toList, InMicroseconds time := by
  cases t with
  | none => simp
  | some time => simp [kept_ofInstant_iff]

/-- What is no time comes back in any case. -/
theorem map_kept {α : Type} (write : α → Datum) (keeps : ∀ a, (write a).kept = write a)
    (value : Option α) : (value.map write).map Datum.kept = value.map write := by
  cases value with
  | none => rfl
  | some a => exact congrArg some (keeps a)

/-- The times of a job. -/
def jobTimes (job : Job) : List Instant :=
  [job.availableAt, job.createdAt, job.updatedAt] ++
    (job.lockedAt.toList ++ job.lastHeartbeatAt.toList ++ job.startedAt.toList ++
      job.finishedAt.toList)

/-- The times of a dead-letter record. -/
def deadLetterTimes (r : DeadLetter) : List Instant :=
  [r.jobCreatedAt, r.movedAt] ++ r.lastRetriedAt.toList

/-- The database keeps the values of a job exactly if it keeps its times. -/
theorem keeps_jobParameters_iff (job : Job) :
    (∀ value ∈ jobParameters job, value.map Datum.kept = value) ↔
      ∀ t ∈ jobTimes job, InMicroseconds t := by
  simp only [jobParameters, jobTimes, List.forall_mem_cons, List.forall_mem_append,
    List.not_mem_nil, Option.map_some, Option.some.injEq, kept_ofInstant_iff,
    map_kept_ofInstant_iff, map_kept .text fun _ => rfl, map_kept .json fun _ => rfl,
    map_kept failureDatum fun _ => rfl]
  simp only [Datum.kept, counterDatum, timeoutDatum]
  tauto

/-- The database keeps the values of a record exactly if it keeps its times. -/
theorem keeps_deadLetterParameters_iff (r : DeadLetter) :
    (∀ value ∈ deadLetterParameters r, value.map Datum.kept = value) ↔
      ∀ t ∈ deadLetterTimes r, InMicroseconds t := by
  simp only [deadLetterParameters, deadLetterTimes, List.forall_mem_cons, List.forall_mem_append,
    List.not_mem_nil, Option.map_some, Option.some.injEq, kept_ofInstant_iff,
    map_kept_ofInstant_iff, map_kept failureDatum fun _ => rfl]
  simp only [Datum.kept, counterDatum]
  tauto

/-! ## Insertions -/

/-- What a table with these columns replies to an insertion that it carries out, when values are
carried to it and back like this: it gives back the row that was made. -/
def Statement.givenBack (columns : List (String × ColumnType))
    (carry : Option Datum → Option Datum) (s : Statement) : Reply :=
  .success [rowOf columns (s.assignments.map fun b => (b.1, carry b.2))] 1

/-- Values that are carried unchanged stand in the row as they were bound. -/
theorem map_carry (bindings : Bindings) {carry : Option Datum → Option Datum}
    (carries : ∀ value ∈ bindings.map (·.2), carry value = value) :
    (bindings.map fun b => (b.1, carry b.2)) = bindings := by
  refine (List.map_congr_left fun b hb => ?_).trans (List.map_id bindings)
  rw [carries b.2 (List.mem_map_of_mem hb)]
  rfl

/-- **What insertions give back.** Let values be carried to the table and back in any way that leaves
the parameters of an insertion as they are. The insertion of a job is one statement, which binds
each value of the job to its column. When the table carries it out and gives the row back, the
answer is the job in every field: only counters beyond the largest of their columns, and a timeout
beyond the longest that settings admit, are cut to these. The same holds for a record. -/
theorem insertions_give_back {job : Job} {r : DeadLetter} {carry : Option Datum → Option Datum}
    (carries : ∀ value ∈ jobParameters job, carry value = value)
    (carries' : ∀ value ∈ deadLetterParameters r, carry value = value) :
    ((perform (.insert job)).run.answerBy
        (fun s (_ : Unit) => s.givenBack jobColumns carry) [()] =
          (.ok (cutJob job), [⟨insertsJob, jobParameters job⟩], []) ∧
      Statement.assignments ⟨insertsJob, jobParameters job⟩ = jobBindings job) ∧
    (perform (.insertDeadLetter r)).run.answerBy
        (fun s (_ : Unit) => s.givenBack deadLetterColumns carry) [()] =
          (.ok (cutDeadLetter r), [⟨insertsDeadLetter, deadLetterParameters r⟩], []) ∧
      Statement.assignments ⟨insertsDeadLetter, deadLetterParameters r⟩ = deadLetterBindings r := by
  refine ⟨⟨?_, assignments_insertsJob job⟩, ?_, assignments_insertsDeadLetter r⟩
  · calc (perform (.insert job)).run.answerBy
          (fun s (_ : Unit) => s.givenBack jobColumns carry) [()]
      _ = (jobOfRow (rowOf jobColumns ((Statement.assignments
            ⟨insertsJob, jobParameters job⟩).map fun b => (b.1, carry b.2))),
          [⟨insertsJob, jobParameters job⟩], []) := rfl
      _ = _ := by
        rw [assignments_insertsJob, map_carry (jobBindings job) carries, jobOfRow_rowOf]
  · calc (perform (.insertDeadLetter r)).run.answerBy
          (fun s (_ : Unit) => s.givenBack deadLetterColumns carry) [()]
      _ = (deadLetterOfRow (rowOf deadLetterColumns ((Statement.assignments
            ⟨insertsDeadLetter, deadLetterParameters r⟩).map fun b => (b.1, carry b.2))),
          [⟨insertsDeadLetter, deadLetterParameters r⟩], []) := rfl
      _ = _ := by
        rw [assignments_insertsDeadLetter, map_carry (deadLetterBindings r) carries',
          deadLetterOfRow_rowOf]

/-! ### A job beyond its columns

A job that was claimed as often as can be counted, with a timeout of more than seven days, and the
record of it, which was submitted again more often than its column can hold.
-/

namespace Overflow

/-- A microsecond past noon. -/
def noon : Instant := (Instant.ofNanoseconds? 43200000001000).getD .epoch

/-- The job. -/
def job : Job :=
  { Store.claimed (Job.queued (.ofNat 1) "mail" (.object []) .epoch) "w" noon with
    attempts := 4294967295
    visibilityTimeoutMs := 604800001
    error := some (.handlerError "out of paper") }

/-- The record. -/
def record : DeadLetter := { DeadLetter.ofJob (.ofNat 2) job noon with retryCount := 2147483648 }

end Overflow

/-- What is beyond its column is cut, and all else comes back from a database that keeps
microseconds. -/
theorem insertions_give_back_overflow :
    (perform (.insert Overflow.job)).run.answerBy
        (fun s (_ : Unit) => s.givenBack jobColumns (Option.map Datum.kept)) [()] =
      (.ok { Overflow.job with attempts := 2147483647, visibilityTimeoutMs := 604800000 },
        [⟨insertsJob, jobParameters Overflow.job⟩], []) ∧
    (perform (.insertDeadLetter Overflow.record)).run.answerBy
        (fun s (_ : Unit) => s.givenBack deadLetterColumns (Option.map Datum.kept)) [()] =
      (.ok { Overflow.record with attempts := 2147483647, retryCount := 2147483647 },
        [⟨insertsDeadLetter, deadLetterParameters Overflow.record⟩], []) := by
  have carries := (keeps_jobParameters_iff Overflow.job).mpr (by decide)
  have carries' := (keeps_deadLetterParameters_iff Overflow.record).mpr (by decide)
  obtain ⟨⟨job, -⟩, record, -⟩ := insertions_give_back carries carries'
  exact ⟨job, record⟩

end JobQueue.Postgres
