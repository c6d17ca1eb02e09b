import JobQueue.Proofs.Client.Duplicates
import JobQueue.Proofs.Store.Continuation

/-!
# What no operation undoes

Whatever is done to a store after a document was found in it, by clients, by workers and to the
dead-letter records, the document stays: at its end it is never touched again, and before that it
only goes on. A new submission of the record of a failed job is no exception, since it makes a job
of its own.

* `Store.handouts`: how often a run of operations hands a job out.
* `Amounts`: calls of the store that come to the same as a run of operations. `amounts_following`
  makes such calls for every run, so that what holds of runs of calls holds of runs of operations.
* `Store.document_lasts`: what lasts of a document.
-/

namespace JobQueue

variable {s : Store} {o : Operation} {run more past rest : List Operation}
  {calls calls' : List Call}

/-! ## What operations put in and hand out -/

namespace Operation

/-- The identifier under which an operation may put a job in. -/
def puts? : Operation → Option Uuid
  | enqueue _ _ w => some w.id
  | retry _ _ w => some w.id
  | call c => c.inserted?.map Job.id

/-- Whether an operation hands a job out. -/
def handsOut (s : Store) (id : Uuid) : Operation → Bool
  | call c => Store.Entry.handsOut ⟨c, s⟩ id
  | _ => false

end Operation

/-- How often a run of operations hands a job out. -/
def Store.handouts (s : Store) (id : Uuid) : List Operation → Nat
  | [] => 0
  | o :: run => (if o.handsOut s id then 1 else 0) + (o.after s).handouts id run

theorem Store.handouts_le_length (s : Store) (id : Uuid) (run : List Operation) :
    s.handouts id run ≤ run.length := by
  induction run generalizing s with
  | nil => exact Nat.le_refl 0
  | cons o run ih =>
    have others := ih (o.after s)
    rw [handouts, List.length_cons]
    split <;> omega

theorem Store.handouts_append (s : Store) (id : Uuid) (run more : List Operation) :
    s.handouts id (run ++ more) = s.handouts id run + (s.following run).handouts id more := by
  induction run generalizing s with
  | nil => exact (Nat.zero_add _).symm
  | cons o run ih =>
    rw [List.cons_append, handouts, ih, handouts, Nat.add_assoc]
    rfl

/-! ## Operations as calls -/

/-- These calls come to the same as a run of operations: they leave the same store, they put jobs in
under the identifiers of the run, each as it is first submitted unless the run itself puts it in by
a call, and they hand out each job as often. -/
structure Amounts (s : Store) (run : List Operation) (calls : List Call) : Prop where
  after : s.following run = s.after calls
  puts : ((calls.filterMap Call.inserted?).map Job.id).Sublist (run.filterMap Operation.puts?)
  asNew : ∀ job, .insert job ∈ calls → job.IsSubmission ∨ .call (.insert job) ∈ run
  claims : ∀ id, s.claims calls id = s.handouts id run

theorem amounts_nil (s : Store) : Amounts s [] [] :=
  ⟨rfl, .slnil, fun _ h => absurd h List.not_mem_nil, fun _ => rfl⟩

theorem Amounts.append (h : Amounts s run calls) (h' : Amounts (s.following run) more calls') :
    Amounts s (run ++ more) (calls ++ calls') where
  after := by
    rw [Store.after_append, ← h.after, ← h'.after, Store.following, List.foldl_append]
    rfl
  puts := by
    rw [List.filterMap_append, List.map_append, List.filterMap_append]
    exact h.puts.append h'.puts
  asNew job hjob := by
    rcases List.mem_append.mp hjob with hjob | hjob
    · exact (h.asNew job hjob).imp_right (List.mem_append_left more)
    · exact (h'.asNew job hjob).imp_right (List.mem_append_right run)
  claims id := by
    rw [Store.claims_append, Store.handouts_append, h.claims, ← h.after, h'.claims]

/-- An operation that is one call amounts to it. -/
theorem amounts_call (s : Store) (c : Call) : Amounts s [.call c] [c] where
  after := rfl
  puts := by
    cases hc : c.inserted? <;> simp [hc, Operation.puts?]
  asNew job hjob := by
    rw [← List.mem_singleton.mp hjob]
    exact .inr (List.mem_singleton_self _)
  claims id := Store.claims_singleton s c id

/-- What a submission makes of a store is what putting one job in makes of it, if any. -/
theorem Client.submitted_eq_after (c : Client) (r : NewJob) (s : Store) (id : Uuid)
    (now : Instant) :
    ∃ put : Option Job, (c.submitted r s id now).2 = s.after (put.toList.map .insert) ∧
      ∀ job, put = some job → job.IsSubmission ∧ job.id = id := by
  unfold submitted
  cases c.check r with
  | error e => exact ⟨none, rfl, fun _ h => by cases h⟩
  | ok admitted =>
    refine ⟨some (c.stamp admitted id now), rfl, ?_⟩
    rintro job ⟨⟩
    exact ⟨rfl, rfl⟩

/-- An operation amounts to putting a submission in, if any, and calls that put nothing in and claim
nothing, if these leave its store. -/
theorem amounts_submission {put : Option Job} {others : List Call}
    (after : o.after s = s.after (put.toList.map .insert ++ others))
    (submission : ∀ job, put = some job → job.IsSubmission ∧ o.puts? = some job.id)
    (hands : ∀ id, o.handsOut s id = false)
    (calm : ∀ c ∈ others, c.inserted? = none ∧ ∀ worker now, c ≠ .claimNext worker now) :
    Amounts s [o] (put.toList.map .insert ++ others) where
  after := after
  puts := by
    have nothing : others.filterMap Call.inserted? = [] :=
      List.filterMap_eq_nil_iff.mpr fun c hc => (calm c hc).1
    rw [List.filterMap_append, nothing, List.append_nil]
    cases put with
    | none => exact List.nil_sublist _
    | some job => simp [Call.inserted?, (submission job rfl).2]
  asNew job hjob := by
    rcases List.mem_append.mp hjob with hjob | hjob
    · obtain ⟨other, hother, same⟩ := List.mem_map.mp hjob
      cases same
      exact .inl (submission job (Option.mem_toList.mp hother)).1
    · cases (calm _ hjob).1
  claims id := by
    have silent : s.claims (put.toList.map .insert ++ others) id = 0 := by
      refine Store.claims_eq_zero fun c hc worker now => ?_
      rcases List.mem_append.mp hc with hc | hc
      · obtain ⟨job, -, rfl⟩ := List.mem_map.mp hc
        exact Call.noConfusion
      · exact (calm c hc).2 worker now
    rw [silent, Store.handouts, hands]
    rfl

/-- Every operation amounts to some calls. -/
theorem amounts_operation (s : Store) (o : Operation) : ∃ calls, Amounts s [o] calls := by
  cases o with
  | call c => exact ⟨[c], amounts_call s c⟩
  | enqueue c r w =>
    obtain ⟨put, after, submission⟩ := c.submitted_eq_after r s w.id (w.clock 1)
    rw [← Operation.after_enqueue, ← List.append_nil (put.toList.map _)] at after
    refine ⟨_, amounts_submission after (fun job hput => ?_) (fun _ => rfl) (by simp)⟩
    obtain ⟨asNew, hid⟩ := submission job hput
    exact ⟨asNew, congrArg some hid.symm⟩
  | retry q target w =>
    obtain ⟨later, hafter⟩ := Operation.after_retry s q target w
    cases found : s.findDeadLetter? target with
    | none =>
      have after : Operation.after s (.retry q target w) =
          s.after ((none : Option Job).toList.map .insert ++ []) := by
        rw [hafter, DeadLetterQueue.retried, found]
        rfl
      exact ⟨_, amounts_submission after (fun _ h => by cases h) (fun _ => rfl) (by simp)⟩
    | some record =>
      obtain ⟨put, after, submission⟩ :=
        q.client.submitted_eq_after (DeadLetterQueue.resubmission record) s w.id (w.clock 3)
      have puts (job : Job) (hput : put = some job) :
          job.IsSubmission ∧ (Operation.retry q target w).puts? = some job.id := by
        obtain ⟨asNew, hid⟩ := submission job hput
        exact ⟨asNew, congrArg some hid.symm⟩
      rcases q.retried_store found w.id (w.clock 3) later with store | store
      · rw [store, after, ← List.append_nil (put.toList.map _)] at hafter
        exact ⟨_, amounts_submission hafter puts (fun _ => rfl) (by simp)⟩
      · rw [store, after, ← Store.after_concat] at hafter
        refine ⟨_, amounts_submission hafter puts (fun _ => rfl) fun c hc => ?_⟩
        rw [List.mem_singleton.mp hc]
        exact ⟨rfl, fun _ _ => Call.noConfusion⟩

/-- Every run amounts to some calls. -/
theorem amounts_following (s : Store) (run : List Operation) : ∃ calls, Amounts s run calls := by
  induction run generalizing s with
  | nil => exact ⟨[], amounts_nil s⟩
  | cons o run ih =>
    obtain ⟨calls, first⟩ := amounts_operation s o
    obtain ⟨more, rest⟩ := ih (s.following [o])
    exact ⟨calls ++ more, first.append rest⟩

/-! ## What lasts -/

/-- **What lasts of a document.** Take any run of submissions, new submissions of dead-letter
records and calls with whatever arguments, in which jobs are put in under identifiers of their own,
and a document that was found on the way, up to where every job was put in as it is first submitted;
and let the job be handed out less than `2 ^ 32` times, as attempts are counted in 32 bits. At the
end of the run the document is still there. If it had ended, it is the same in every field. In any
case its identifier, type, payload, attempts allowed, rank, visibility timeout and time of creation
are the same, as is the time of its start once there is one, and its attempts have not gone down. -/
theorem Store.document_lasts {id : Uuid} {first : Job}
    (asNew : ∀ job, .call (.insert job) ∈ past → job.IsSubmission)
    (distinct : ((past ++ rest).filterMap Operation.puts?).Nodup)
    (few : empty.handouts id (past ++ rest) < 2 ^ 32)
    (found : (empty.following past).find? id = some first) :
    ∃ last, (empty.following (past ++ rest)).find? id = some last ∧ first.Continues last ∧
      first.attempts ≤ last.attempts := by
  obtain ⟨calls, hpast⟩ := amounts_following empty past
  obtain ⟨more, hrest⟩ := amounts_following (empty.following past) rest
  have both := hpast.append hrest
  have distinctIds : DistinctIds (calls ++ more) := distinct.sublist both.puts
  have submissions (job : Job) (hjob : .insert job ∈ calls) : job.IsSubmission :=
    (hpast.asNew job hjob).elim (fun asNew => asNew) (asNew job)
  rw [hpast.after] at found
  obtain ⟨last, hlast, continues⟩ := continues_after distinctIds found
  refine ⟨last, by rw [both.after, hlast], continues, ?_⟩
  rw [← both.claims] at few
  exact (attempts_le_after submissions distinctIds few found hlast).1

/-! ### A letter that is sent again

The letter that failed gets a record, which is submitted again, and the worker that failed it calls
once more.
-/

namespace Letter

/-- The letter that failed, as it is stored. -/
def spoiled : Job := Store.failed (Store.claimed stored "w" .epoch) (.visibilityTimeout none) .epoch

/-- What happens then. -/
def resent : List Operation :=
  [.call (.insertDeadLetter (.ofJob (.ofNat 7) spoiled .epoch)),
    .retry ⟨client⟩ (.ofNat 7) (occasion 2),
    .call (.markSucceeded (.ofNat 1) "w" .null .epoch),
    .call (.releaseStuck Relay.evening),
    .call (.claimNext "w" Relay.evening)]

end Letter

/-- The letter that failed is as it was. -/
theorem Store.document_lasts_letter :
    (empty.following (Letter.failed ++ Letter.resent)).find? (.ofNat 1) = some Letter.spoiled := by
  have found : (empty.following Letter.failed).find? (.ofNat 1) = some Letter.spoiled := by
    rw [find?, Letter.jobs_failed]
    rfl
  have asNew (job : Job) (hjob : .call (.insert job) ∈ Letter.failed) : job.IsSubmission := by
    simp [Letter.failed, Letter.underWay] at hjob
  have few : empty.handouts (.ofNat 1) (Letter.failed ++ Letter.resent) < 2 ^ 32 :=
    Nat.lt_of_le_of_lt (handouts_le_length _ _ _) (by decide)
  obtain ⟨last, hlast, continues, -⟩ := document_lasts asNew (by decide) few found
  rw [hlast, continues.final rfl]

end JobQueue
