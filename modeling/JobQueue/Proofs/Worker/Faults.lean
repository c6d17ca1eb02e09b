import JobQueue.Proofs.Client.Tending
import JobQueue.Proofs.DeadLetter.Copies
import JobQueue.Proofs.Program.Faults
import JobQueue.Proofs.Store.ExpiredLocks
import JobQueue.Proofs.Store.Records

/-!
# Iterations whose calls fail

Any calls of an iteration may fail: that of the pass over expired locks, the offers of the jobs that
failed in it to the dead letters, the claim, the end of the attempt, and the offer behind it. What
the worker does about it differs from call to call, and no job is lost by any of it.

* `Store.TakesBack`: what a pass does to a job whose lock ran out.
* `Worker.Ended`: how the attempt at a claimed job ends, and `Worker.process_yields`: it ends so.
* `Worker.Opened`: how an iteration begins, and `Worker.claim_yields`: it begins so.
* `Worker.Leaves`: what an iteration ends with, and what it leaves behind then.
* `Worker.faults_lose_nothing`: whatever fails, every iteration begins and ends so.
-/

namespace JobQueue

variable {handler : Type} {b c : Post}

open Program

/-! ## What lasts at a post -/

/-- A lock that is held goes on to be held while its worker waits. -/
theorem Post.Meanwhile.holds {job : Job} {worker : String} (h : b.Meanwhile c)
    (held : ∃ time, b.store.HeldSince job worker time) :
    ∃ time, c.store.HeldSince job worker time := by
  induction h with
  | nothing => exact held
  | @renewal b c target owner now renewing rest ih =>
    obtain ⟨time, doc, found, owned, locked, renewal⟩ := held
    refine ih ?_
    have same (doc : Job) : (Store.renewed doc now).id = doc.id := rfl
    rcases b.store.updateLocked_at target owner same job.id with
      ⟨doc', -, found', -, -, after⟩ | ⟨-, after⟩
    · rw [found, Option.some.injEq] at found'
      subst found'
      exact ⟨now, _, after, owned, rfl, renewal.renewed now⟩
    · exact ⟨time, doc, after.trans found, owned, locked, renewal⟩
  | client clients rest ih =>
    obtain ⟨time, doc, found, owned, locked, renewal⟩ := held
    exact ih ⟨time, doc, Store.find?_of_isClients clients found, owned, locked, renewal⟩

/-- The worker holds the lock of a job as it claimed it, and no lock is renewed. -/
def Post.Holding (b : Post) (job : Job) (worker : String) : Prop :=
  b.renewing = none ∧ ∃ time, b.store.HeldSince job worker time

theorem Post.Holding.later {job : Job} {worker : String} (h : b.Holding job worker)
    (meanwhile : b.Meanwhile c) : c.Holding job worker :=
  ⟨meanwhile.renewing_eq.trans h.1, meanwhile.holds h.2⟩

/-- What goes on to hold at a post while its worker waits, and while it makes records. -/
structure Post.Lasting (I : Post → Prop) : Prop where
  meanwhile : ∀ b c : Post, I b → b.Meanwhile c → I c
  record : ∀ (b : Post) (r : DeadLetter), I b → I (b.called (.insertDeadLetter r))

theorem Post.lasting_still : Lasting fun b => b.renewing = none where
  meanwhile _ _ still meanwhile := meanwhile.renewing_eq.trans still
  record _ _ still := still

/-- So does a document, as long as no lock is renewed. -/
theorem Post.lasting_document (id : Uuid) (doc : Job) :
    Lasting fun b => b.renewing = none ∧ b.store.find? id = some doc where
  meanwhile _ _ h meanwhile := ⟨meanwhile.renewing_eq.trans h.1, meanwhile.find?_eq h.1 h.2⟩
  record _ _ h := h

/-! ## Locks that are left -/

namespace Store

/-- A pass over expired locks takes a job back. If it has attempts left, it is queued again without
its lock. Else it fails, with an error that names the owner of its lock, and is reported. -/
def TakesBack (s : Store) (doc : Job) (now : Instant) : Prop :=
  if doc.attempts < doc.maxAttempts then
    (s.releaseStuck now).2.find? doc.id = some
      { doc with
        status := .queued
        lockOwner := none
        lockedAt := none
        lastHeartbeatAt := none
        updatedAt := now }
  else ∃ failed ∈ (s.releaseStuck now).1.exhausted,
    (s.releaseStuck now).2.find? doc.id = some failed ∧ failed =
      { doc with
        status := .failed
        error := some ⟨"VISIBILITY_TIMEOUT", "Visibility timeout expired",
          "lock held by " ++ doc.lockOwner.getD "unknown worker" ++
            " expired on the final attempt"⟩
        finishedAt := some now
        lockOwner := none
        lockedAt := none
        lastHeartbeatAt := none
        idempotencyKey := none
        updatedAt := now }

/-- A pass after the deadline of a lock takes the job back. -/
theorem takesBack_of_deadline {s : Store} {doc : Job} {worker : String}
    {time deadline now : Instant} (found : s.find? doc.id = some doc)
    (owned : doc.isLockedBy worker) (locked : doc.lockedAt = some time)
    (ends : time.add? (doc.visibilityTimeoutMs.toNat * 1000000 : Nat) = some deadline)
    (past : deadline < now) : s.TakesBack doc now := by
  rw [← Instant.after?_eq_add?] at ends
  have expired : doc.lockExpired now = true :=
    Job.lockExpired_iff.mpr ⟨(Job.isLockedBy_iff.mp owned).1, time, deadline, locked, ends, past⟩
  unfold TakesBack
  rw [find?_releaseStuck, found, Option.map_some, released, if_pos expired]
  by_cases left : doc.attempts < doc.maxAttempts
  · have remaining : doc.hasAttemptsRemaining = true := decide_eq_true left
    rw [if_pos left, if_pos remaining]
    rfl
  · have spent : doc.hasAttemptsRemaining = false := decide_eq_false left
    rw [if_neg left, if_neg (by simp [spent])]
    exact ⟨exhausted doc now, mem_exhausted_iff.mpr ⟨doc, mem_of_find? found, expired, spent, rfl⟩,
      rfl, rfl⟩

end Store

/-! ## Offers to the dead letters -/

/-- The deed offers a failed job to the dead letters, which have the record unless the call failed.
-/
def Deed.Offers (d : Deed) (job : Job) : Prop :=
  ∃ record : DeadLetter, record.IsOf job ∧ d.Of (.insertDeadLetter record) ∧
    (d.isFailed = false → d.after.findDeadLetter? record.id = some record)

namespace DeadLetterQueue

/-- How the offer of a failed job ends. -/
inductive Offered (job : Job) : Except QueueError DeadLetter → Deed → Prop
  | recorded (s : Store) (id : Uuid) (now : Instant) :
      Offered job (.ok (.ofJob id job now)) (.made s (.insertDeadLetter (.ofJob id job now)))
  | failed (s : Store) (id : Uuid) (now : Instant) (e : QueueError) :
      Offered job (.error e) (.failed s (.insertDeadLetter (.ofJob id job now)) e)

theorem Offered.offers {job : Job} {r : Except QueueError DeadLetter} {d : Deed}
    (h : Offered job r d) : d.Offers job := by
  cases h with
  | recorded s id now =>
    refine ⟨_, DeadLetter.isOf_ofJob id job now, Deed.of_made s _, fun _ => ?_⟩
    exact (Store.find?_putDeadLetter _ _ _).trans (if_pos rfl)
  | failed s id now e =>
    exact ⟨_, DeadLetter.isOf_ofJob id job now, Deed.of_failed s _ e, fun made => by cases made⟩

/-- A failed job is offered once. -/
theorem moveJob_yields {I : Post → Prop} (lasting : Post.Lasting I) (start : I b) (job : Job) :
    (moveJob job : QueueProgram handler DeadLetter).run.Yields b fun r deeds c =>
      I c ∧ ∃ offer, deeds = [offer] ∧ Offered job r offer := by
  refine QueueProgram.yields_now_bind fun now c m => ?_
  refine QueueProgram.yields_mute_bind (isMute_request rfl) fun id c' m' => ?_
  have start := lasting.meanwhile _ _ (lasting.meanwhile _ _ start m) m'
  have offered : (QueueProgram.within (.deadLetters "move") (QueueProgram.call
      (.insertDeadLetter (.ofJob id job now))) : QueueProgram handler DeadLetter).run.Yields c'
      fun r deeds d => I d ∧ ∃ offer, deeds = [offer] ∧ Offered job r offer := by
    refine yields_within (fun r deeds d d' h later => ⟨lasting.meanwhile _ _ h.1 later, h.2⟩)
      fun d before => yields_call (fun d' m => ?_) fun d' e m => ?_
    · have start := lasting.meanwhile _ _ (lasting.meanwhile _ _ start before) m
      exact ⟨lasting.record _ _ start, _, rfl, .recorded _ id now⟩
    · have start := lasting.meanwhile _ _ (lasting.meanwhile _ _ start before) m
      exact ⟨start, _, rfl, .failed _ id now e⟩
  refine QueueProgram.yields_bind (offered.mono fun r deeds d h => ?_)
  cases r with
  | error e => exact h
  | ok record =>
    refine QueueProgram.yields_tell_bind fun d' later => yields_done ?_
    rw [List.append_nil]
    exact ⟨lasting.meanwhile _ _ h.1 later, h.2⟩

end DeadLetterQueue

namespace Worker

variable {w : Worker handler} {job : Job}

/-- A failed job is offered once. That this fails is no error: there is no record then. -/
theorem bury_yields {I : Post → Prop} (lasting : Post.Lasting I) (start : I b) (job failed : Job) :
    (bury job failed : QueueProgram handler (Option Uuid)).run.Yields b fun r deeds c =>
      I c ∧ ∃ record offer, r = .ok record ∧ deeds = [offer] ∧ offer.Offers failed ∧
        (record = none ↔ offer.isFailed = true) := by
  refine QueueProgram.yields_lift_bind
    ((DeadLetterQueue.moveJob_yields lasting start failed).mono ?_)
  rintro r _ c ⟨holds, offer, rfl, offered⟩
  have offers := offered.offers
  cases offered with
  | recorded s id now =>
    exact yields_done ⟨holds, _, _, rfl, rfl, offers, fun h => (by cases h), fun h => (by cases h)⟩
  | failed s id now e =>
    refine QueueProgram.yields_tell_bind fun d later => yields_done ?_
    exact ⟨lasting.meanwhile _ _ holds later, _, _, rfl, rfl, offers, by simp⟩

/-- A job that failed in a pass is offered once. -/
theorem buryExhausted_yields {I : Post → Prop} (lasting : Post.Lasting I) (start : I b)
    (job : Job) :
    (buryExhausted job : Program handler Unit).Yields b fun _ deeds c =>
      I c ∧ ∃ offer, deeds = [offer] ∧ offer.Offers job := by
  have told : (reportFinalized job "failed" : Program handler Unit).IsMute :=
    (isMute_tell _ _ _).bind fun _ => isMute_measure _
  refine told.yields_bind fun _ c m => yields_bind
    ((DeadLetterQueue.moveJob_yields lasting (lasting.meanwhile _ _ start m) job).mono ?_)
  rintro r _ d ⟨holds, offer, rfl, offered⟩
  cases r with
  | ok record => exact yields_done ⟨holds, offer, rfl, offered.offers⟩
  | error e =>
    refine ((isMute_tell _ _ _).yields d).mono ?_
    rintro _ _ d' ⟨rfl, later⟩
    exact ⟨lasting.meanwhile _ _ holds later, offer, rfl, offered.offers⟩

/-- All jobs that failed in a pass are offered once, one after the other, whether or not the offers
before them failed. -/
theorem buryAll_yields {I : Post → Prop} (lasting : Post.Lasting I) (start : I b)
    (jobs : List Job) :
    (buryAll jobs : Program handler Unit).Yields b fun _ deeds c =>
      I c ∧ List.Forall₂ Deed.Offers deeds jobs := by
  induction jobs generalizing b with
  | nil => exact yields_done ⟨start, .nil⟩
  | cons job rest ih =>
    refine yields_bind ((buryExhausted_yields lasting start job).mono ?_)
    rintro _ _ c ⟨holds, offer, rfl, offers⟩
    exact (ih holds).mono fun _ deeds d h => ⟨h.1, .cons offers h.2⟩

/-! ## The end of an attempt -/

/-- How the attempt at a claimed job ends. -/
inductive Ended (w : Worker handler) (job : Job) :
    Except QueueError Outcome → List Deed → Post → Prop
  /-- The call that was to end it failed, and the worker goes on to hold the lock. -/
  | cut {s : Store} {c : Call} {e : QueueError} {b : Post} (ends : c.ends? = some (job.id, w.id))
      (held : ∃ time, b.store.HeldSince job w.id time) : w.Ended job (.error e) [.failed s c e] b
  /-- The end was written, and the job did not fail. -/
  | written {s : Store} {c : Call} {outcome : Outcome} {b : Post}
      (ends : c.ends? = some (job.id, w.id)) (accepted : c.accepts (s.perform c).1 = true)
      (same : outcome.job = job.id)
      (alive : ∀ id attempts record, outcome ≠ .failed id attempts record) :
      w.Ended job (.ok outcome) [.made s c] b
  /-- The job failed, and was offered to the dead letters. -/
  | buried {s : Store} {error : Failure} {now : Instant} {doc : Job} {offer : Deed}
      {record : Option Uuid} {b : Post}
      (failed : (s.markFailed job.id w.id error now).1 = some doc) (offers : offer.Offers doc)
      (recorded : record = none ↔ offer.isFailed = true)
      (stored : b.store.find? job.id = some doc) :
      w.Ended job (.ok (.failed job.id doc.attempts record))
        [.made s (.markFailed job.id w.id error now), offer] b

/-- The attempt at a claimed job ends, and no lock is renewed then. -/
def Closes (w : Worker handler) (job : Job) (r : Except QueueError Outcome) (deeds : List Deed)
    (c : Post) : Prop := c.renewing = none ∧ w.Ended job r deeds c

/-- The end of an attempt lasts. -/
theorem Closes.later {r : Except QueueError Outcome} {deeds : List Deed} {c d : Post}
    (h : w.Closes job r deeds c) (meanwhile : c.Meanwhile d) : w.Closes job r deeds d := by
  obtain ⟨still, ended⟩ := h
  refine ⟨meanwhile.renewing_eq.trans still, ?_⟩
  cases ended with
  | cut ends held => exact .cut ends (meanwhile.holds held)
  | written ends accepted same alive => exact .written ends accepted same alive
  | buried failed offers recorded stored =>
    exact .buried failed offers recorded (meanwhile.find?_eq still stored)

/-- The call that is to end an attempt is accepted, or fails. If it fails, the worker goes on to
hold the lock. -/
theorem ending_yields (h : b.Holding job w.id) {c : Call} (ends : c.ends? = some (job.id, w.id))
    {f : c.Answer → QueueProgram handler Outcome}
    (ended : ∀ (m : Post) answer, m.renewing = none → (m.store.perform c).1 = .ok answer →
      c.accepts (.ok answer) = true → (f answer).run.Yields (m.called c) fun r rest d =>
        w.Closes job r (.made m.store c :: rest) d) :
    (QueueProgram.call c >>= f).run.Yields b (w.Closes job) := by
  refine QueueProgram.yields_bind (yields_call (fun m meanwhile => ?_) fun m e meanwhile => ?_)
  · obtain ⟨still, time, held⟩ := h.later meanwhile
    have accepted := held.accepts ends
    cases same : (m.store.perform c).1 with
    | ok answer =>
      rw [same] at accepted
      exact ended m answer still same accepted
    | error e =>
      rw [same] at accepted
      cases c <;> cases accepted
  · exact ⟨(h.later meanwhile).1, .cut ends (h.later meanwhile).2⟩

/-- The worker ends the attempt with a value. -/
theorem succeed_yields (h : b.Holding job w.id) (result : Json) :
    (w.succeed job result).run.Yields b (w.Closes job) := by
  refine QueueProgram.yields_now_bind fun now c m => ending_yields (h.later m) rfl ?_
  intro d answer still same accepted
  obtain rfl : answer = true := accepted
  exact yields_done ⟨still, .written rfl (by rw [same]; rfl) rfl fun _ _ _ => by simp⟩

/-- The worker ends the last attempt with a failure. -/
theorem fail_yields (h : b.Holding job w.id) (error : Failure) :
    (w.fail job error).run.Yields b (w.Closes job) := by
  refine QueueProgram.yields_now_bind fun now c m => ending_yields (h.later m) rfl ?_
  intro d answer still same accepted
  obtain ⟨doc, rfl⟩ : ∃ doc, answer = some doc := Option.isSome_iff_exists.mp accepted
  have failed : (d.store.markFailed job.id w.id error now).1 = some doc := Except.ok.inj same
  obtain ⟨-, -, -, -, stored⟩ := Store.markFailed_eq_some failed
  have start : (d.called (.markFailed job.id w.id error now)).renewing = none ∧
      (d.called (.markFailed job.id w.id error now)).store.find? job.id = some doc :=
    ⟨still, stored⟩
  refine QueueProgram.yields_bind
    ((bury_yields (Post.lasting_document job.id doc) start job doc).mono ?_)
  rintro _ _ d' ⟨⟨still, stored⟩, record, offer, rfl, rfl, offers, recorded⟩
  exact yields_done ⟨still, .buried failed offers recorded stored⟩

/-- The worker ends an attempt with a failure. -/
theorem handleFailure_yields (h : b.Holding job w.id) (error : Failure) :
    (w.handleFailure job error).run.Yields b (w.Closes job) := by
  unfold handleFailure
  cases decideAfterFailure job.attempts job.maxAttempts w.settings.backoff with
  | deadLetter => exact fail_yields h error
  | retry delayMs =>
    refine QueueProgram.yields_now_bind fun now c m => ending_yields (h.later m) rfl ?_
    intro d answer still same accepted
    obtain rfl : answer = true := accepted
    refine QueueProgram.yields_tell_bind fun d' later => yields_done ?_
    exact Closes.later (c := d.called _)
      ⟨still, .written rfl (by rw [same]; rfl) rfl fun _ _ _ => by simp⟩ later

/-- The worker ends an attempt as the handler ended. -/
theorem finish_yields (h : b.Holding job w.id) (result : HandlerResult) :
    (w.finish job result).run.Yields b (w.Closes job) := by
  rcases result with (e | message) | value
  · exact QueueProgram.yields_tell_bind fun c m => handleFailure_yields (h.later m) _
  · exact QueueProgram.yields_tell_bind fun c m => handleFailure_yields (h.later m) _
  · exact succeed_yields h value

/-- The handler runs while the lock is renewed, which is over when the handler is. -/
theorem dispatch_yields (h : b.Holding job w.id) (f : handler) :
    (w.dispatch f job).Yields b fun _ deeds c => deeds = [] ∧ c.Holding job w.id := by
  refine yields_bind (yields_request rfl fun c _ m => ?_)
  have held : ∃ time, (c.asked (.startRenewal job.id w.id : Effect handler)).store.HeldSince
      job w.id time := m.holds h.2
  have ran : (within (.dispatch job) (request (.dispatch f job)) : Program handler _).IsMute :=
    (isMute_request rfl).within rfl rfl
  refine ran.yields_bind fun result d m => yields_bind (yields_request rfl fun d' why m' => ?_)
  have ended : (d'.asked (.stopRenewal : Effect handler)).Holding job w.id :=
    ⟨rfl, m'.holds (m.holds held)⟩
  cases why with
  | none => exact yields_done ⟨rfl, ended⟩
  | some why =>
    exact (isMute_tell _ _ _).yields_bind fun _ e m => yields_done ⟨rfl, ended.later m⟩

/-- A claimed job is treated. -/
theorem process_yields (h : b.Holding job w.id) :
    (w.process job).run.Yields b (w.Closes job) := by
  have told (outcome : Outcome) :
      (reportFinalized job outcome.label : Program handler Unit).IsMute :=
    (isMute_tell _ _ _).bind fun _ => isMute_measure _
  -- what is told of the outcome changes nothing about the end
  have reported {outcome : Outcome} {deeds : List Deed} {c : Post}
      (closes : w.Closes job (.ok outcome) deeds c) :
      (do
        QueueProgram.lift (Program.reportFinalized job outcome.label)
        pure outcome : QueueProgram handler Outcome).run.Yields c
        fun r rest d => w.Closes job r (deeds ++ rest) d := by
    refine QueueProgram.yields_mute_bind (told outcome) fun _ d m => yields_done ?_
    rw [List.append_nil]
    exact closes.later m
  unfold process
  cases w.registry.find? job.jobType with
  | none =>
    refine QueueProgram.yields_tell_bind fun c m =>
      QueueProgram.yields_bind ((fail_yields (h.later m) _).mono fun r deeds d closes => ?_)
    cases r with
    | error e => exact closes
    | ok outcome => exact reported closes
  | some f =>
    have stopwatch : (request .stopwatch : Program handler _).IsMute :=
      isMute_request rfl
    refine QueueProgram.yields_mute_bind stopwatch fun start c m =>
      QueueProgram.yields_lift_bind ((dispatch_yields (h.later m) f).mono ?_)
    rintro result _ d ⟨rfl, h⟩
    have finished : (QueueProgram.within (.finalize job) (w.finish job result)).run.Yields d
        (w.Closes job) :=
      yields_within (fun r deeds c d closes later => closes.later later) fun c m =>
        finish_yields (h.later m) result
    refine QueueProgram.yields_bind (finished.mono fun r deeds d closes => ?_)
    cases r with
    | error e => exact closes
    | ok outcome =>
      refine QueueProgram.yields_mute_bind stopwatch fun stop d m => ?_
      refine QueueProgram.yields_mute_bind ((isMute_tell _ _ _).bind fun _ => isMute_measure _)
        fun _ d' m' => ?_
      exact reported ((closes.later m).later m')

/-! ## The beginning of an iteration -/

/-- The pass over expired locks comes first. Whatever becomes of it, it is no error, and each job
that failed in it is offered once. -/
theorem releaseStuck_yields (still : b.renewing = none) :
    w.releaseStuck.Yields b fun _ deeds c => c.renewing = none ∧
      ∃ pass offers, deeds = pass :: offers ∧ (∃ now, pass.Of (.releaseStuck now)) ∧
        List.Forall₂ Deed.Offers offers (pass.call.failed pass.answer) := by
  have now : (request .now : Program handler _).IsMute := isMute_request rfl
  refine now.yields_bind fun now c m => yields_bind (yields_call (fun d m' => ?_) fun d e m' => ?_)
  · have still : (d.called (.releaseStuck now)).renewing = none :=
      m'.renewing_eq.trans (m.renewing_eq.trans still)
    have answer : (d.store.perform (.releaseStuck now)).1 = .ok (d.store.releaseStuck now).1 := rfl
    rw [answer]
    dsimp only
    split
    next nothing =>
      have none : (d.store.releaseStuck now).1.exhausted = [] := by
        simp [StuckRelease.isEmpty] at nothing
        exact nothing.2
      refine yields_done ⟨still, _, [], rfl, ⟨now, Deed.of_made _ _⟩, ?_⟩
      show List.Forall₂ Deed.Offers [] (d.store.releaseStuck now).1.exhausted
      rw [none]
      exact .nil
    next =>
      have told : (reportReleased w.id (d.store.releaseStuck now).1.requeued
          (UInt64.ofNat (d.store.releaseStuck now).1.exhausted.length) :
          Program handler Unit).IsMute := (isMute_tell _ _ _).bind fun _ => isMute_measure _
      refine told.yields_bind fun _ d' later => ?_
      refine (buryAll_yields Post.lasting_still (later.renewing_eq.trans still)
        (d.store.releaseStuck now).1.exhausted).mono fun _ deeds d'' h => ?_
      exact ⟨h.1, _, _, rfl, ⟨now, Deed.of_made _ _⟩, h.2⟩
  · have still : d.renewing = none := m'.renewing_eq.trans (m.renewing_eq.trans still)
    refine ((isMute_tell _ _ _).yields d).mono ?_
    rintro _ _ d' ⟨rfl, later⟩
    exact ⟨later.renewing_eq.trans still, _, [], rfl, ⟨now, Deed.of_failed _ _ e⟩, .nil⟩

/-- How a claim ends. -/
inductive Claimed (w : Worker handler) : Except QueueError (Option Job) → Deed → Post → Prop
  | failed (s : Store) (now : Instant) (e : QueueError) (b : Post) :
      w.Claimed (.error e) (.failed s (.claimNext w.id now) e) b
  | nothing {s : Store} {now : Instant} {b : Post} (answer : (s.claimNext w.id now).1 = none) :
      w.Claimed (.ok none) (.made s (.claimNext w.id now)) b
  | handed {s : Store} {now : Instant} {job : Job} {b : Post}
      (answer : (s.claimNext w.id now).1 = some job)
      (held : ∃ time, b.store.HeldSince job w.id time) :
      w.Claimed (.ok (some job)) (.made s (.claimNext w.id now)) b

/-- How an iteration begins: with a pass over expired locks, the offers of the jobs that failed in
it, and a claim. -/
structure Opened (w : Worker handler) (pass : Deed) (offers : List Deed) (claim : Deed) : Prop where
  passed : ∃ now, pass.Of (.releaseStuck now)
  offered : List.Forall₂ Deed.Offers offers (pass.call.failed pass.answer)
  claimed : ∃ now, claim.Of (.claimNext w.id now)

theorem Claimed.of {r : Except QueueError (Option Job)} {claim : Deed} (h : w.Claimed r claim b) :
    ∃ now, claim.Of (.claimNext w.id now) := by
  cases h with
  | failed s now e b => exact ⟨now, Deed.of_failed s _ e⟩
  | nothing answer => exact ⟨_, Deed.of_made _ _⟩
  | handed answer held => exact ⟨_, Deed.of_made _ _⟩

theorem Claimed.later {r : Except QueueError (Option Job)} {claim : Deed} (h : w.Claimed r claim b)
    (meanwhile : b.Meanwhile c) : w.Claimed r claim c := by
  cases h with
  | failed s now e b => exact .failed s now e c
  | nothing answer => exact .nothing answer
  | handed answer held => exact .handed answer (meanwhile.holds held)

/-- An iteration begins so. -/
theorem claim_yields (still : b.renewing = none) :
    w.claim.run.Yields b fun r deeds c => c.renewing = none ∧
      ∃ pass offers claim, deeds = pass :: (offers ++ [claim]) ∧ w.Opened pass offers claim ∧
        w.Claimed r claim c := by
  refine yields_within ?_ fun c m => QueueProgram.yields_lift_bind
    ((releaseStuck_yields (m.renewing_eq.trans still)).mono ?_)
  · rintro r _ c d ⟨still, pass, offers, claim, rfl, opened, claimed⟩ later
    exact ⟨later.renewing_eq.trans still, pass, offers, claim, rfl, opened, claimed.later later⟩
  · rintro _ _ d ⟨still, pass, offers, rfl, passed, offered⟩
    refine QueueProgram.yields_now_bind fun now d' m => ?_
    have still := m.renewing_eq.trans still
    have opened {r : Except QueueError (Option Job)} {claim : Deed} {c : Post}
        (claimed : w.Claimed r claim c) (still : c.renewing = none) : c.renewing = none ∧
        ∃ pass' offers' claim', pass :: (offers ++ [claim]) = pass' :: (offers' ++ [claim']) ∧
          w.Opened pass' offers' claim' ∧ w.Claimed r claim' c :=
      ⟨still, pass, offers, claim, rfl, ⟨passed, offered, claimed.of⟩, claimed⟩
    refine yields_call (fun e m => ?_) fun e why m => ?_
    · have still : (e.called (.claimNext w.id now)).renewing = none := m.renewing_eq.trans still
      have answer : (e.store.perform (.claimNext w.id now)).1 =
        .ok (e.store.claimNext w.id now).1 := rfl
      rw [answer]
      cases claim : (e.store.claimNext w.id now).1 with
      | none => exact opened (.nothing claim) still
      | some job => exact opened (.handed claim ⟨now, Store.heldSince_claimNext claim⟩) still
    · exact opened (.failed e.store now why e) (m.renewing_eq.trans still)

/-! ## An iteration -/

/-- The attempt at a job was begun by a claim, and was to be ended by a call that failed. The worker
goes on to hold the job, with this attempt counted, until a pass after the deadline takes it back.
-/
structure Abandoned (w : Worker handler) (claim : Deed) (ending : List Deed) (e : QueueError)
    (b : Post) (job : Job) : Prop where
  handed : claim.call.claimed? claim.answer = some job
  counted : ∃ old ∈ claim.before.jobs, old.id = job.id ∧ job.attempts = old.attempts + 1
  cut : ∃ mark, ending = [mark] ∧ mark = .failed mark.before mark.call e ∧
    mark.call.ends? = some (job.id, w.id)
  held : ∃ doc time, b.store.find? job.id = some doc ∧ doc.status = .processing ∧
    doc.lockOwner = some w.id ∧ doc.lockedAt = some time ∧ doc.IsRenewalOf job ∧
    ∀ deadline now,
      time.add? (doc.visibilityTimeoutMs.toNat * 1000000 : Nat) = some deadline →
        deadline < now → b.store.TakesBack doc now

/-- What an iteration ended with, after these deeds of its claim and behind it, and at this post. -/
def Leaves (w : Worker handler) (claim : Deed) (ending : List Deed) (b : Post) :
    Except QueueError (Option Outcome) → Prop
  -- an error is that of the claim, or of the call that was to end the attempt
  | .error e =>
    (claim = .failed claim.before claim.call e ∧ ending = []) ∨
      ∃ job, w.Abandoned claim ending e b job
  | .ok none => claim.call.claimed? claim.answer = none ∧ claim.isFailed = false ∧ ending = []
  -- there is no record exactly if its offer failed
  | .ok (some (.failed id attempts record)) =>
    ∃ doc mark offer, ending = [mark, offer] ∧ mark.call.failed mark.answer = [doc] ∧
      offer.Offers doc ∧ (record = none ↔ offer.isFailed = true) ∧
      b.store.find? id = some doc ∧ doc.status = .failed ∧ doc.attempts = attempts
  | .ok (some outcome) =>
    ∃ mark, ending = [mark] ∧ mark.call.ends? = some (outcome.job, w.id) ∧
      mark.call.accepts mark.answer = true

/-- A claimed job whose attempt was cut short by a failing call is abandoned. -/
theorem abandoned_of_cut {s t : Store} {c : Call} {now : Instant} {e : QueueError}
    (answer : (s.claimNext w.id now).1 = some job) (ends : c.ends? = some (job.id, w.id))
    (held : ∃ time, b.store.HeldSince job w.id time) :
    w.Abandoned (.made s (.claimNext w.id now)) [.failed t c e] e b job := by
  obtain ⟨time, doc, found, owned, locked, renewal⟩ := held
  obtain ⟨-, -, old, mem, -, rfl⟩ := Store.claimNext_eq_some answer
  have same : doc.id = (Store.claimed old w.id now).id := Store.id_of_find? found
  obtain ⟨processing, owner⟩ := Job.isLockedBy_iff.mp owned
  refine ⟨answer, ⟨old, mem, rfl, rfl⟩, ⟨_, rfl, rfl, ends⟩, doc, time, found, processing, owner,
    locked, renewal, fun deadline now atEnd past => ?_⟩
  exact Store.takesBack_of_deadline (same ▸ found) owned locked atEnd past

/-- What the attempt at a claimed job ended with is what the iteration ends with. -/
theorem Ended.leaves {s : Store} {now : Instant} {r : Except QueueError Outcome}
    {ending : List Deed} (h : w.Ended job r ending b)
    (answer : (s.claimNext w.id now).1 = some job) :
    w.Leaves (.made s (.claimNext w.id now)) ending b (some <$> r) := by
  cases h with
  | cut ends held => exact .inr ⟨job, abandoned_of_cut answer ends held⟩
  | @written t c outcome _ ends accepted same alive =>
    cases outcome with
    | failed id attempts record => exact absurd rfl (alive id attempts record)
    | succeeded | retrying | lockLost => exact ⟨_, rfl, same ▸ ends, accepted⟩
  | @buried t error later doc offer record _ failed offers recorded stored =>
    obtain ⟨before, -, -, rfl, -⟩ := Store.markFailed_eq_some failed
    refine ⟨_, _, offer, rfl, ?_, offers, recorded, stored, rfl, rfl⟩
    show (t.markFailed job.id w.id error later).1.toList = _
    rw [failed]
    rfl

/-- **Faults lose nothing.** Any of the calls of an iteration may fail without effect. The pass over
expired locks is followed by the offers of the jobs that failed in it, each once and in order, and
these by a claim, whether or not any of them failed. An error leaves a claimed job with the worker,
not renewed any more, until a pass after its deadline takes it back; and a failing offer is no
error. -/
theorem faults_lose_nothing {s : Store} {deeds : List Deed}
    {result : Except QueueError (Option Outcome)}
    (h : w.runOnce.run.Weathers ⟨s, none⟩ deeds result b) :
    b.renewing = none ∧
      ∃ pass offers claim ending, deeds = pass :: (offers ++ claim :: ending) ∧
        w.Opened pass offers claim ∧ w.Leaves claim ending b result := by
  refine QueueProgram.yields_bind (Q := fun result deeds c => c.renewing = none ∧
    ∃ pass offers claim ending, deeds = pass :: (offers ++ claim :: ending) ∧
      w.Opened pass offers claim ∧ w.Leaves claim ending c result)
    ((claim_yields rfl).mono ?_) h
  clear h
  rintro r _ c ⟨still, pass, offers, claim, rfl, opened, claimed⟩
  -- the deeds of the attempt stand behind those of the beginning
  have split (claim : Deed) (ending : List Deed) :
      pass :: (offers ++ [claim]) ++ ending = pass :: (offers ++ claim :: ending) := by simp
  cases claimed with
  | failed t now e => exact ⟨still, pass, offers, _, [], rfl, opened, .inl ⟨rfl, rfl⟩⟩
  | @nothing t now _ answer =>
    refine QueueProgram.yields_tell_bind fun d later => yields_done ?_
    exact ⟨later.renewing_eq.trans still, pass, offers, _, [], split _ _, opened, answer, rfl, rfl⟩
  | @handed t now job _ answer held =>
    dsimp only
    rw [ExceptT.run_map, map_eq_pure_bind]
    refine yields_bind ((process_yields ⟨still, held⟩).mono ?_)
    rintro r ending d ⟨still, ended⟩
    refine yields_done ⟨still, pass, offers, _, ending, ?_, opened, ended.leaves answer⟩
    rw [List.append_nil, split]

/-! ### An outage

In the evening a worker takes back what the two carriers lost. The record of the letter cannot be
written. The worker carries the parcel, renews its lock on the way, and cannot write down that it
arrived.
-/

namespace Outage

def worker : Worker Unit := ⟨"w", .standard, ⟨[("parcel", ())]⟩⟩

/-- Ten seconds into the way. -/
def onTheWay : Instant := (Instant.ofMilliseconds? 130000).getD .epoch

/-- When the lock of the parcel runs out. -/
def night : Instant := (Instant.ofMilliseconds? 190000).getD .epoch

def morning : Instant := (Instant.ofMilliseconds? 200000).getD .epoch

/-- The store in the evening. -/
def found : Store := Store.empty.after Store.Carriers.calls

/-- The locks that ran out are taken. -/
def released : Store := (found.releaseStuck Relay.evening).2

/-- The letter as the pass answers it. -/
def letter : Job := Store.exhausted Store.Carriers.carried Relay.evening

/-- The parcel is claimed, and its lock renewed. -/
def held : Store :=
  ((released.claimNext "w" Relay.evening).2.heartbeat (.ofNat 1) "w" onTheWay).2

def deeds : List Deed :=
  [.made found (.releaseStuck Relay.evening),
    .failed released (.insertDeadLetter (.ofJob (.ofNat 9) letter Relay.evening)) (.store "down"),
    .made released (.claimNext "w" Relay.evening),
    .failed held (.markSucceeded (.ofNat 1) "w" .null onTheWay) (.store "down")]

theorem weathered : worker.runOnce.run.Weathers ⟨found, none⟩ deeds (.error (.store "down"))
    ⟨held, none⟩ := by
  refine .answered (.nothing _) rfl () (.answered (.nothing _) rfl Relay.evening ?_)
  refine .made (.nothing _) ?_
  refine .answered (.nothing _) rfl () (.answered (.nothing _) rfl () ?_)
  refine .answered (.nothing _) rfl () (.answered (.nothing _) rfl () ?_)
  refine .answered (.nothing _) rfl Relay.evening (.answered (.nothing _) rfl (.ofNat 9) ?_)
  refine .answered (.nothing _) rfl () ?_
  refine .failed (.nothing _) (.store "down") (.answered (.nothing _) rfl () ?_)
  refine .answered (.nothing _) rfl () ?_
  refine .answered (.nothing _) rfl Relay.evening (.made (.nothing _) ?_)
  refine .answered (.nothing _) rfl () (.answered (.nothing _) rfl 0 ?_)
  refine .answered (.nothing _) rfl () (.answered (.nothing _) rfl () ?_)
  refine .answered (.renewal onTheWay rfl (.nothing _)) rfl (.ok .null) ?_
  refine .answered (.nothing _) rfl () (.answered (.nothing _) rfl none ?_)
  refine .answered (.nothing _) rfl () (.answered (.nothing _) rfl onTheWay ?_)
  refine .failed (.nothing _) _ (.answered (.nothing _) rfl () ?_)
  exact .done _ _

/-- The parcel on the way. -/
def parcel : Job :=
  { Store.Carriers.parcel with
    status := .processing
    attempts := 2
    lockOwner := some "w"
    lockedAt := some onTheWay
    lastHeartbeatAt := some onTheWay
    startedAt := some .epoch
    updatedAt := onTheWay }

theorem find?_held : held.find? (.ofNat 1) = some parcel := by
  decide +kernel

/-- The letter is all that failed in the pass. -/
theorem failed_in_pass : (found.releaseStuck Relay.evening).1.exhausted = [letter] := by
  decide +kernel

theorem claimed : (released.claimNext "w" Relay.evening).1.map Job.id = some (.ofNat 1) := by
  decide +kernel

theorem deadline :
    onTheWay.add? (parcel.visibilityTimeoutMs.toNat * 1000000 : Nat) = some night := by
  decide +kernel

end Outage

/-- A record of the letter was offered, and the offer failed. The parcel stays with the worker, and a
pass in the morning queues it again. -/
theorem faults_lose_nothing_outage :
    (∃ record : DeadLetter, record.jobId = .ofNat 2 ∧ record.jobType = "letter" ∧
      record.attempts = 1 ∧
      record.error = some ⟨"VISIBILITY_TIMEOUT", "Visibility timeout expired",
        "lock held by b expired on the final attempt"⟩ ∧
      Outage.deeds[1] = .failed Outage.released (.insertDeadLetter record) (.store "down")) ∧
    ∃ doc, Outage.held.find? (.ofNat 1) = some doc ∧ doc.status = .processing ∧
      doc.lockOwner = some "w" ∧ doc.attempts = 2 ∧
      (Outage.held.releaseStuck Outage.morning).2.find? (.ofNat 1) = some
        { doc with
          status := .queued
          lockOwner := none
          lockedAt := none
          lastHeartbeatAt := none
          updatedAt := Outage.morning } := by
  obtain ⟨-, pass, offers, claim, ending, done, opened, leaves⟩ :=
    faults_lose_nothing Outage.weathered
  obtain ⟨rfl, behind⟩ := List.cons.inj done
  -- the letter was offered, and nothing else
  have offered : List.Forall₂ Deed.Offers offers [Outage.letter] :=
    Outage.failed_in_pass ▸ opened.offered
  obtain ⟨offer, rfl, offers⟩ : ∃ offer : Deed, offers = [offer] ∧ offer.Offers Outage.letter := by
    cases offered with
    | cons offers none =>
      cases none
      exact ⟨_, rfl, offers⟩
  obtain ⟨same, behind⟩ := List.cons.inj behind
  obtain ⟨rfl, rfl⟩ := List.cons.inj behind
  constructor
  · obtain ⟨record, made, made_or_failed, -⟩ := offers
    have called : offer.call = .insertDeadLetter record := by
      rcases made_or_failed with h | ⟨_, h⟩ <;> rw [h] <;> rfl
    rw [← same] at called
    refine ⟨record, made.jobId, made.jobType, made.attempts, made.error, ?_⟩
    rw [← called]
    rfl
  · obtain ⟨failed, -⟩ | ⟨job, abandoned⟩ := leaves
    · cases failed
    · have id : job.id = .ofNat 1 := by
        have claimed := Outage.claimed
        rw [show (Outage.released.claimNext "w" Relay.evening).1 = some job from abandoned.handed]
          at claimed
        exact Option.some.inj claimed
      obtain ⟨doc, time, stored, status, owner, locked, -, back⟩ := abandoned.held
      rw [id] at stored
      have parcel : Outage.parcel = doc := Option.some.inj (Outage.find?_held.symm.trans stored)
      subst parcel
      obtain rfl : Outage.onTheWay = time := Option.some.inj locked
      have back := back Outage.night Outage.morning Outage.deadline (by decide)
      rw [Store.TakesBack, if_pos (by decide)] at back
      exact ⟨_, stored, status, owner, rfl, back⟩

end Worker

end JobQueue
