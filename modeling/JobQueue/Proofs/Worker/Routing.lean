import JobQueue.Proofs.Client.Lasting
import JobQueue.Proofs.Program.Asking
import JobQueue.Proofs.Worker.Parts

/-!
# Which handler gets a job

A job goes three ways before a handler has it. A client trims its type and submits it, a worker
claims it later, and looks up its type in a registry where handlers stand under the types they were
registered for, as these were given.

* `Registry.find?_registered`: under each type stands the handler registered for it last.
* `Program.HandsTo` and `Program.Rejects`: a worker hands a job to a handler, or fails it for its
  type.
* `Worker.process_handsTo_iff` and `Worker.process_rejects`: it does the one for a type with a
  handler, and the other for one without.
* `Worker.process_by_trimmed_type`: so it is the type with no blanks at its ends that counts.
-/

namespace JobQueue

variable {handler α : Type}

/-! ## Registering -/

namespace Registry

/-- The registry after some calls. -/
def registered (calls : List (String × handler)) : Registry handler :=
  calls.foldl (fun r e => r.register e.1 e.2) empty

/-- The handler of the last call for a type. -/
def lastUnder (calls : List (String × handler)) (jobType : String) : Option handler :=
  (calls.reverse.find? fun e => e.1 = jobType).map (·.2)

theorem lastUnder_concat (calls : List (String × handler)) (e : String × handler)
    (jobType : String) :
    lastUnder (calls ++ [e]) jobType =
      if e.1 = jobType then some e.2 else lastUnder calls jobType := by
  rw [lastUnder, List.reverse_concat, List.find?_cons]
  by_cases here : e.1 = jobType
  · simp [here]
  · simp [here, lastUnder]

/-- Under each type stands the handler registered for it last. -/
theorem find?_registered (calls : List (String × handler)) (jobType : String) :
    (registered calls).find? jobType = lastUnder calls jobType := by
  induction calls using List.reverseRecOn with
  | nil => rfl
  | append_singleton calls e ih =>
    have one : registered (calls ++ [e]) = (registered calls).register e.1 e.2 :=
      List.foldl_concat ..
    rw [one, find?_register, lastUnder_concat, ih]

end Registry

/-! ## What becomes of a claimed job -/

/-- How an attempt ends: with a value, or with a failure. -/
def verdict : HandlerResult → Except Failure Json
  | .ok value => .ok value
  | .error (.error e) => .error e.toFailure
  | .error (.panic message) => .error (.handlerPanic (panicMessage message))

/-- Whether an effect reaches neither the store nor a handler. -/
def Effect.isQuiet : Effect handler → Bool
  | .call _ | .dispatch _ _ => false
  | _ => true

/-- Whether an effect may be asked for when the attempt of a worker ended so: no handler runs, and
what is written down of the job is how its attempt ended. -/
def Effect.Concludes (job : Uuid) (owner : String) (v : Except Failure Json) :
    Effect handler → Prop
  | .dispatch _ _ => False
  | .call (.markSucceeded id worker value _) => id = job ∧ worker = owner ∧ v = .ok value
  | .call (.markRetry id worker error _ _) => id = job ∧ worker = owner ∧ v = .error error
  | .call (.markFailed id worker error _) => id = job ∧ worker = owner ∧ v = .error error
  | .call (.insertDeadLetter _) => True
  | .call _ => False
  | _ => True

namespace Program

/-- The first thing that the program asks of the store or of a handler, and how it goes on with it,
is such, whatever it was told before. -/
def First (P : (e : Effect handler) → (e.Answer → Program handler α) → Prop) :
    Program handler α → Prop
  | .done _ => False
  | .ask e next => if e.isQuiet then ∀ answer, (next answer).First P else P e next

/-- The program hands a job to a handler, and then writes down how that ended. -/
def HandsTo (owner : String) (h : handler) (job : Job) : Program handler α → Prop :=
  First fun e next =>
    match e, next with
    | .dispatch h' job', next => h' = h ∧ job' = job ∧
        ∀ result, (next result).AsksOnly (Effect.Concludes job.id owner (verdict result))
    | _, _ => False

/-- The program hands a job to no handler, and fails it for its type. -/
def Rejects (owner : String) (job : Job) : Program handler α → Prop :=
  First fun e next =>
    (∃ now, e = .call (.markFailed job.id owner (.invalidJobType job.jobType) now)) ∧
    ∀ answer, (next answer).AsksOnly
      (Effect.Concludes job.id owner (.error (.invalidJobType job.jobType)))

end Program

open Program

/-! ## The end of an attempt -/

namespace Worker

variable (w : Worker handler) (job : Job) {v : Except Failure Json}

theorem lockLost_concludes : (w.lockLost job).run.AsksOnly (Effect.Concludes job.id w.id v) :=
  QueueProgram.asksOnly_request_bind trivial fun _ => asksOnly_done _

theorem bury_concludes (failed : Job) :
    (bury job failed : QueueProgram handler (Option Uuid)).run.AsksOnly
      (Effect.Concludes job.id w.id v) := by
  have moved : (DeadLetterQueue.moveJob failed : QueueProgram handler DeadLetter).run.AsksOnly
      (Effect.Concludes job.id w.id v) := by
    refine QueueProgram.asksOnly_request_bind trivial fun now => ?_
    refine QueueProgram.asksOnly_request_bind trivial fun id => ?_
    refine QueueProgram.asksOnly_bind ?_ fun record => ?_
    · exact AsksOnly.within (asksOnly_request trivial) trivial trivial
    · exact QueueProgram.asksOnly_request_bind trivial fun _ => asksOnly_done _
  refine QueueProgram.asksOnly_bind (QueueProgram.asksOnly_lift moved) fun r => ?_
  cases r with
  | ok record => exact asksOnly_done _
  | error e => exact QueueProgram.asksOnly_request_bind trivial fun _ => asksOnly_done _

theorem failed_concludes (failed : Job) :
    (do
      let record ← bury job failed
      pure (.failed job.id failed.attempts record) : QueueProgram handler Outcome).run.AsksOnly
      (Effect.Concludes job.id w.id v) :=
  QueueProgram.asksOnly_bind (w.bury_concludes job failed) fun _ => asksOnly_done _

theorem fail_concludes (error : Failure) :
    (w.fail job error).run.AsksOnly (Effect.Concludes job.id w.id (.error error)) := by
  refine QueueProgram.asksOnly_request_bind trivial fun now => ?_
  refine QueueProgram.asksOnly_call_bind ⟨rfl, rfl, rfl⟩ fun answer => ?_
  cases answer with
  | none => exact w.lockLost_concludes job
  | some failed => exact w.failed_concludes job failed

theorem handleFailure_concludes (error : Failure) :
    (w.handleFailure job error).run.AsksOnly (Effect.Concludes job.id w.id (.error error)) := by
  unfold handleFailure
  cases decideAfterFailure job.attempts job.maxAttempts w.settings.backoff with
  | deadLetter => exact w.fail_concludes job error
  | retry delayMs =>
    refine QueueProgram.asksOnly_request_bind trivial fun now => ?_
    refine QueueProgram.asksOnly_call_bind ⟨rfl, rfl, rfl⟩ fun accepted => ?_
    cases accepted with
    | true => exact QueueProgram.asksOnly_request_bind trivial fun _ => asksOnly_done _
    | false => exact w.lockLost_concludes job

/-- What is written down of a job is how its attempt ended. -/
theorem finish_concludes (result : HandlerResult) :
    (w.finish job result).run.AsksOnly (Effect.Concludes job.id w.id (verdict result)) := by
  rcases result with (e | message) | value
  · exact QueueProgram.asksOnly_request_bind trivial fun _ => w.handleFailure_concludes job _
  · exact QueueProgram.asksOnly_request_bind trivial fun _ => w.handleFailure_concludes job _
  · refine QueueProgram.asksOnly_request_bind trivial fun now => ?_
    refine QueueProgram.asksOnly_call_bind ⟨rfl, rfl, rfl⟩ fun accepted => ?_
    cases accepted with
    | true => exact asksOnly_done _
    | false => exact w.lockLost_concludes job

theorem reportFinalized_concludes (outcome : Outcome) :
    (do
      QueueProgram.lift (reportFinalized job outcome.label)
      pure outcome : QueueProgram handler Outcome).run.AsksOnly
      (Effect.Concludes job.id w.id v) := by
  refine QueueProgram.asksOnly_bind (QueueProgram.asksOnly_lift ?_) fun _ => asksOnly_done _
  exact (asksOnly_request trivial).bind fun _ => asksOnly_request trivial

/-! ## Looking up the handler -/

variable {h : handler}

/-- A job whose type has a handler is handed to it and to no other. -/
theorem process_handsTo_iff (found : w.registry.find? job.jobType = some h) (other : handler) :
    (w.process job).run.HandsTo w.id other job ↔ h = other := by
  have concluded (start : Nat) (result : HandlerResult) :
      (do
        let outcome ← QueueProgram.within (.finalize job) (w.finish job result)
        let stop ← QueueProgram.lift (request .stopwatch)
        QueueProgram.lift (reportDuration job.jobType outcome.label (stop - start))
        QueueProgram.lift (reportFinalized job outcome.label)
        pure outcome : QueueProgram handler Outcome).run.AsksOnly
        (Effect.Concludes job.id w.id (verdict result)) := by
    refine QueueProgram.asksOnly_bind ?_ fun outcome => ?_
    · exact AsksOnly.within (w.finish_concludes job result) trivial trivial
    · refine QueueProgram.asksOnly_request_bind trivial fun stop => ?_
      refine QueueProgram.asksOnly_bind (QueueProgram.asksOnly_lift ?_) fun _ =>
        w.reportFinalized_concludes job outcome
      exact (asksOnly_request trivial).bind fun _ => asksOnly_request trivial
  unfold process
  rw [found]
  constructor
  · intro first
    exact (first 0 () ()).1
  · rintro rfl
    intro start _ _
    refine ⟨rfl, rfl, fun result => ⟨trivial, fun _ => ⟨trivial, fun why => ?_⟩⟩⟩
    cases why with
    | none => exact concluded start result
    | some why => exact ⟨trivial, fun _ => concluded start result⟩

/-- A job whose type has a handler is not failed for it. -/
theorem not_process_rejects (found : w.registry.find? job.jobType = some h) :
    ¬(w.process job).run.Rejects w.id job := by
  unfold process
  rw [found]
  intro first
  obtain ⟨⟨now, same⟩, -⟩ := first 0 () ()
  cases same

/-- A job whose type has no handler is failed for it. -/
theorem process_rejects (none : w.registry.find? job.jobType = none) :
    (w.process job).run.Rejects w.id job := by
  unfold process
  rw [none]
  intro _ now
  refine ⟨⟨now, rfl⟩, fun answer => ?_⟩
  rcases answer with e | _ | failed
  · exact asksOnly_done _
  · exact QueueProgram.asksOnly_bind (w.lockLost_concludes job) (w.reportFinalized_concludes job)
  · exact QueueProgram.asksOnly_bind (w.failed_concludes job failed)
      (w.reportFinalized_concludes job)

theorem not_process_handsTo (none : w.registry.find? job.jobType = none) :
    ¬(w.process job).run.HandsTo w.id h job := by
  unfold process
  rw [none]
  intro first
  exact first () .epoch

end Worker

/-! ## From the submission to the handler -/

namespace Store

variable {past rest : List Operation} {id : Uuid} {first job : Job}

/-- A document that was found stays, in any run that puts jobs in under identifiers of their own. -/
theorem continues_following (distinct : ((past ++ rest).filterMap Operation.puts?).Nodup)
    (found : (empty.following past).find? id = some first) :
    ∃ last, (empty.following (past ++ rest)).find? id = some last ∧ first.Continues last := by
  obtain ⟨calls, hpast⟩ := amounts_following empty past
  obtain ⟨more, hrest⟩ := amounts_following (empty.following past) rest
  have both := hpast.append hrest
  rw [hpast.after] at found
  rw [both.after]
  exact continues_after (distinct.sublist both.puts) found

end Store

/-- A job that was accepted is in the store, under its trimmed type. -/
theorem Client.find?_of_submitted {c : Client} {r : NewJob} {s : Store} {id : Uuid} {now : Instant}
    {first : Job} (accepted : (c.submitted r s id now).1 = .ok first) :
    first.jobType = Text.trim r.jobType ∧
      (c.submitted r s id now).2.find? first.id = some first := by
  rw [submitted] at accepted ⊢
  rcases c.check_cases r with ⟨-, why, refused | refused⟩ | ⟨-, admitted⟩
  · rw [refused] at accepted
    cases accepted
  · rw [refused] at accepted
    cases accepted
  · rw [admitted] at accepted ⊢
    dsimp only at accepted ⊢
    rcases s.insert_cases (c.stamp _ id now) with ⟨e, refused⟩ | ⟨keys, inserted⟩
    · rw [refused] at accepted
      cases accepted
    · rw [inserted] at accepted ⊢
      cases accepted
      exact ⟨rfl, by rw [Store.find?_put, if_pos rfl]⟩

namespace Worker

variable {calls : List (String × handler)} {w : Worker handler} {c : Client} {r : NewJob}
  {o : Occasion} {past rest : List Operation} {first job : Job} {now : Instant}

/-- The job that a worker claims has the type that was submitted, without the blanks at its ends. -/
theorem jobType_of_claimed
    (distinct : ((past ++ .enqueue c r o :: rest).filterMap Operation.puts?).Nodup)
    (accepted : ((c.enqueue r : QueueProgram handler Job).run.alone
      (Store.empty.following past) o.ahead).1 = .ok first)
    (claimed : ((Store.empty.following (past ++ .enqueue c r o :: rest)).claimNext w.id now).1 =
      some job) (own : job.id = first.id) : job.jobType = Text.trim r.jobType := by
  obtain ⟨n, alone⟩ := @Client.alone_enqueue handler c r (Store.empty.following past) o.ahead
  rw [alone] at accepted
  dsimp only at accepted
  obtain ⟨type, stored⟩ := Client.find?_of_submitted accepted
  rw [Occasion.id_ahead, Occasion.time_ahead, ← Operation.after_enqueue,
    ← Store.following_concat] at stored
  have split : past ++ .enqueue c r o :: rest = past ++ [.enqueue c r o] ++ rest := by simp
  rw [split] at distinct claimed
  obtain ⟨last, found, continues⟩ := Store.continues_following distinct stored
  obtain ⟨-, -, old, listed, -, rfl⟩ := Store.claimNext_eq_some claimed
  have unique : (Store.empty.following (past ++ [.enqueue c r o] ++ rest)).UniqueIds := by
    obtain ⟨calls, amounts⟩ := amounts_following .empty (past ++ [.enqueue c r o] ++ rest)
    rw [amounts.after]
    exact Store.uniqueIds_after Store.uniqueIds_empty calls
  have same := Store.find?_of_mem unique listed
  rw [show old.id = first.id from own, found, Option.some.injEq] at same
  rw [← type, ← continues.jobType, same]
  rfl

/-- **Which handler gets a job.** Handlers are registered by any calls, a client submits a job in
any store that operations lead to, it is accepted, and a worker claims it after any further
operations, in which jobs are put in under identifiers of their own. The worker hands the job to the
handler that was registered last for the type without the blanks at its ends, to no other, and
writes down how that ended; and if there is none, it fails the job for its type. So the handler that
was registered last for the type as it was submitted gets the job exactly when the blanks make no
difference to the registry. -/
theorem process_by_trimmed_type (registry : w.registry = .registered calls)
    (distinct : ((past ++ .enqueue c r o :: rest).filterMap Operation.puts?).Nodup)
    (accepted : ((c.enqueue r : QueueProgram handler Job).run.alone
      (Store.empty.following past) o.ahead).1 = .ok first)
    (claimed : ((Store.empty.following (past ++ .enqueue c r o :: rest)).claimNext w.id now).1 =
      some job) (own : job.id = first.id) :
    (∀ h, (w.process job).run.HandsTo w.id h job ↔
      Registry.lastUnder calls (Text.trim r.jobType) = some h) ∧
    ((w.process job).run.Rejects w.id job ↔
      Registry.lastUnder calls (Text.trim r.jobType) = none) ∧
    ∀ h, Registry.lastUnder calls r.jobType = some h →
      ((w.process job).run.HandsTo w.id h job ∧ ¬(w.process job).run.Rejects w.id job ↔
        Registry.lastUnder calls (Text.trim r.jobType) =
          Registry.lastUnder calls r.jobType) := by
  have type := jobType_of_claimed distinct accepted claimed own
  have found : w.registry.find? job.jobType =
      Registry.lastUnder calls (Text.trim r.jobType) := by
    rw [registry, Registry.find?_registered, type]
  have hands (h : handler) : (w.process job).run.HandsTo w.id h job ↔
      Registry.lastUnder calls (Text.trim r.jobType) = some h := by
    rw [← found]
    cases stands : w.registry.find? job.jobType with
    | none => simpa using w.not_process_handsTo job stands
    | some other => rw [w.process_handsTo_iff job stands, Option.some.injEq]
  have rejects : (w.process job).run.Rejects w.id job ↔
      Registry.lastUnder calls (Text.trim r.jobType) = none := by
    rw [← found]
    cases stands : w.registry.find? job.jobType with
    | none => simpa using w.process_rejects job stands
    | some other => simpa using w.not_process_rejects job stands
  refine ⟨hands, rejects, fun h last => ?_⟩
  rw [hands, rejects, last]
  constructor
  · exact fun both => both.1
  · intro same
    exact ⟨same, by simp [same]⟩

end Worker

/-! ### Letters with blanks around their type

One handler is registered for the type as it is submitted, and perhaps others for the type alone.
-/

namespace Padded

def client : Client := ⟨.standard, false⟩

def letter : NewJob := ⟨" mail ", .object [], some 3, none⟩

def occasion : Occasion := ⟨.ofNat 1, fun _ => .epoch⟩

/-- The letter as it is stored. -/
def first : Job := client.stamp ⟨"mail", .object [], 3, .normal⟩ (.ofNat 1) .epoch

/-- The letter as it is claimed. -/
def taken : Job := Store.claimed first "w" .epoch

def worker (calls : List (String × Nat)) : Worker Nat := ⟨"w", .standard, .registered calls⟩

theorem accepted : ((client.enqueue letter : QueueProgram Nat Job).run.alone
    (Store.empty.following []) occasion.ahead).1 = .ok first := rfl

theorem claimed (calls : List (String × Nat)) :
    ((Store.empty.following [.enqueue client letter occasion]).claimNext (worker calls).id
      .epoch).1 = some taken := rfl

end Padded

theorem Worker.process_by_trimmed_type_padded :
    ((Padded.worker [("mail", 1), (" mail ", 2), ("mail", 3)]).process Padded.taken).run.HandsTo "w"
      3 Padded.taken :=
  ((Worker.process_by_trimmed_type rfl (by decide) Padded.accepted
    (Padded.claimed _) rfl).1 3).mpr (by decide)

/-- A handler that stands under the type as it is submitted does not get the letter. -/
theorem Worker.rejects_padded :
    Registry.lastUnder [(" mail ", 2)] Padded.letter.jobType = some 2 ∧
      ((Padded.client.enqueue Padded.letter : QueueProgram Nat Job).run.alone .empty
        Padded.occasion.ahead).1 = .ok Padded.first ∧
      ((Store.empty.following [.enqueue Padded.client Padded.letter Padded.occasion]).claimNext "w"
        .epoch).1 = some Padded.taken ∧
      Padded.taken.id = Padded.first.id ∧
      ((Padded.worker [(" mail ", 2)]).process Padded.taken).run.Rejects "w" Padded.taken ∧
      ∀ h, ¬((Padded.worker [(" mail ", 2)]).process Padded.taken).run.HandsTo "w" h
        Padded.taken := by
  have none : (Padded.worker [(" mail ", 2)]).registry.find? Padded.taken.jobType = none := by
    decide
  refine ⟨by decide, rfl, rfl, rfl, process_rejects _ _ none, fun h => ?_⟩
  exact not_process_handsTo _ _ none

end JobQueue
