import JobQueue.Proofs.Client.Submission
import JobQueue.Proofs.DeadLetter.Copies
import JobQueue.Proofs.Store.Continuation
import JobQueue.Proofs.Worker.Iteration

/-!
# The attempts at a job

One worker sees the one job of a store through: iteration after iteration it claims the job, runs
its handler and writes down how that ended, until a handler gives a value or the claims are used up.

* `Bench.Awaits`: the job waits to be claimed, so many attempts after its submission.
* `Worker.runOnce_retries`, `Worker.runOnce_succeeds` and `Worker.runOnce_fails`: what an iteration
  makes of a job that waits.
* `Worker.SeesThrough` and `Worker.sees_through`: what all iterations together make of it, whatever
  the handlers do.
-/

namespace JobQueue

variable {handler : Type}

/-! ## Between iterations -/

/-- A document whose lock was renewed goes on with what it was. -/
theorem Job.IsRenewalOf.continues {doc job : Job} (h : doc.IsRenewalOf job)
    (going : job.status.isTerminal = false) : job.Continues doc := by
  obtain ⟨lockedAt, beat, updatedAt, rfl⟩ := h
  exact ⟨fun terminal => absurd terminal (by simp [going]), rfl, rfl, rfl, rfl, rfl, rfl, rfl,
    fun _ => rfl, fun _ => rfl⟩

/-- The numbers of the first attempts. -/
def attemptNumbers (n : Nat) : List UInt32 := (List.range n).map fun i => UInt32.ofNat (i + 1)

theorem attemptNumbers_succ (n : Nat) :
    attemptNumbers (n + 1) = attemptNumbers n ++ [UInt32.ofNat (n + 1)] := by
  rw [attemptNumbers, List.range_succ, List.map_append]
  rfl

/-- There is one job, which stands so, and these are the records; no lock is renewed, and the job
was handed to handlers this often, each time on its next attempt. -/
structure Bench.Stands (b : Bench) (doc : Job) (records : List DeadLetter) (n : Nat) : Prop where
  idle : b.renewing = none
  jobs : b.store.jobs = [doc]
  records : b.store.deadLetters = records
  dispatched : b.dispatched.map Job.attempts = attemptNumbers n

/-- The job that was submitted so waits to be claimed, after this many attempts. -/
structure Bench.Awaits (b : Bench) (first : Job) (n : Nat) (doc : Job) : Prop extends
    b.Stands doc [] n where
  queued : doc.status = .queued
  attempts : doc.attempts = UInt32.ofNat n
  continues : first.Continues doc

theorem Bench.Stands.eq {b : Bench} {doc : Job} {records : List DeadLetter} {n : Nat}
    (h : b.Stands doc records n) :
    b = ⟨⟨[doc], b.store.keys, records⟩, none, b.dispatched, b.passed⟩ := by
  obtain ⟨⟨jobs, keys, deadLetters⟩, renewing, dispatched, passed⟩ := b
  obtain ⟨rfl, rfl, rfl, -⟩ := h
  rfl

theorem Bench.Stands.length_dispatched {b : Bench} {doc : Job} {records : List DeadLetter} {n : Nat}
    (h : b.Stands doc records n) : b.dispatched.length = n := by
  have lengths := congrArg List.length h.dispatched
  simpa [attemptNumbers] using lengths

namespace Worker

variable (w : Worker handler) (v : Scenery) {b : Bench} {first doc : Job} {n : Nat} {h : handler}

/-- A job that waits and whose time has come is claimed and handed to its handler, on its next
attempt; what becomes of it is how that attempt is ended. -/
theorem attempt_of_awaits (awaits : b.Awaits first n doc)
    (registered : w.registry.find? first.jobType = some h)
    (forward : ∀ k, (v.around k).time ≤ (v.around (k + 1)).time)
    (due : doc.availableAt ≤ b.clock v) :
    ∃ job doc' m, job.id = first.id ∧ job.attempts = UInt32.ofNat (n + 1) ∧
      job.maxAttempts = first.maxAttempts ∧ doc'.isLockedBy w.id ∧ doc'.IsRenewalOf job ∧
      first.Continues doc' ∧ b.passed ≤ m ∧
      (b.dispatched ++ [job]).map Job.attempts = attemptNumbers (n + 1) ∧
      ∀ outcome t jobs m', (w.finish job (v.results n)).run.atBench v
          ⟨⟨[doc'], b.store.keys, []⟩, none, b.dispatched ++ [job], m⟩ =
          (.ok outcome, ⟨t, none, jobs, m'⟩) →
        w.runOnce.run.atBench v b = (.ok (some outcome), ⟨t, none, jobs, m' + 6⟩) := by
  have claimable : doc.isClaimable (v.around (b.passed + 3)).time := by
    have inTime : doc.availableAt ≤ (v.around (b.passed + 3)).time :=
      Instant.le_trans due (Instant.le_trans (forward _)
        (Instant.le_trans (forward _) (forward _)))
    simp [Job.isClaimable, awaits.queued, inTime]
  rw [← awaits.continues.jobType] at registered
  have claims := Change.claimed w.id claimable
  obtain ⟨doc', m, later, held, renewal, treated⟩ := @runOnce_atBench_claimed handler w v doc
    b.dispatched b.passed b.store.keys [] h registered claimable
  have attempts : (Store.claimed doc w.id (v.around (b.passed + 3)).time).attempts =
      UInt32.ofNat (n + 1) := by
    rw [UInt32.ofNat_add, ← awaits.attempts]
    rfl
  rw [awaits.length_dispatched, ← awaits.eq] at treated
  refine ⟨Store.claimed doc w.id (v.around (b.passed + 3)).time, doc', m, awaits.continues.id,
    attempts, awaits.continues.maxAttempts, held, renewal,
    (awaits.continues.trans (claims.continues (by simp))).trans (renewal.continues rfl), later, ?_,
    treated⟩
  rw [List.map_append, awaits.dispatched, attemptNumbers_succ, ← attempts]
  rfl

/-- A failing attempt with claims left: the job waits for its next one. -/
theorem runOnce_retries (awaits : b.Awaits first n doc)
    (registered : w.registry.find? first.jobType = some h)
    (forward : ∀ k, (v.around k).time ≤ (v.around (k + 1)).time) (due : doc.availableAt ≤ b.clock v)
    (left : n + 1 < first.maxAttempts.toNat) {error : Failure}
    (failing : failure? (v.results n) = some error) :
    ∃ doc' b' p, w.runOnce.run.atBench v b =
        (.ok (some (.retrying first.id (UInt32.ofNat (n + 1))
          (w.settings.backoff.delayFor (UInt32.ofNat (n + 1))))), b') ∧
      b'.Awaits first (n + 1) doc' ∧ doc'.error = some error ∧ b.passed ≤ p ∧ p < b'.passed ∧
      doc'.availableAt = ((v.around p).time.add?
        ((w.settings.backoff.delayFor (UInt32.ofNat (n + 1))).toNat * 1000000 : Nat)).getD .last := by
  obtain ⟨job, doc', m, hid, attempts, maxAttempts, held, renewal, continues, later, dispatched,
    treated⟩ := w.attempt_of_awaits v awaits registered forward due
  have same : doc'.id = job.id := by rw [continues.id, hid]
  have few : job.attempts < job.maxAttempts := by
    rw [UInt32.lt_iff_toNat_lt, attempts, maxAttempts, UInt32.toNat_ofNat']
    exact Nat.lt_of_le_of_lt (Nat.mod_le _ _) left
  have ended := (finish_atBench_failing w v _ _ failing _).trans
    (@handleFailure_atBench_retry handler w v doc' job (b.dispatched ++ [job]) (m + 1) b.store.keys
      [] error held same few)
  rw [hid, attempts] at ended
  have hattempts : doc'.attempts = UInt32.ofNat (n + 1) := by
    obtain ⟨_, _, _, rfl⟩ := renewal
    exact attempts
  have retries := Change.retried error (retryAt (v.around (m + 1)).time
    ((w.settings.backoff.delayFor (UInt32.ofNat (n + 1))).toNat * 1000000))
    (v.around (m + 1)).time held
  have inside : m + 1 < m + 1 + 3 + 6 := by omega
  exact ⟨_, _, m + 1, treated _ _ _ _ ended,
    { idle := rfl
      jobs := rfl
      records := rfl
      dispatched := dispatched
      queued := rfl
      attempts := hattempts
      continues := continues.trans (retries.continues (by simp)) },
    rfl, by omega, inside, retryAt_eq _ _⟩

/-- An attempt that gives a value: the job succeeds. -/
theorem runOnce_succeeds (awaits : b.Awaits first n doc)
    (registered : w.registry.find? first.jobType = some h)
    (forward : ∀ k, (v.around k).time ≤ (v.around (k + 1)).time) (due : doc.availableAt ≤ b.clock v)
    {value : Json} (given : v.results n = .ok value) :
    ∃ doc' b', w.runOnce.run.atBench v b = (.ok (some (.succeeded first.id)), b') ∧
      b'.Stands doc' [] (n + 1) ∧ first.Continues doc' ∧ doc'.status = .succeeded ∧
      doc'.attempts = UInt32.ofNat (n + 1) ∧ doc'.result = some value ∧ doc'.error = none := by
  obtain ⟨job, doc', m, hid, attempts, maxAttempts, held, renewal, continues, later, dispatched,
    treated⟩ := w.attempt_of_awaits v awaits registered forward due
  have same : doc'.id = job.id := by rw [continues.id, hid]
  have ended := @succeed_atBench handler w v doc' job (b.dispatched ++ [job]) m b.store.keys []
    value held same
  rw [given] at treated
  have hattempts : doc'.attempts = UInt32.ofNat (n + 1) := by
    obtain ⟨_, _, _, rfl⟩ := renewal
    exact attempts
  rw [hid] at ended
  have succeeds := Change.succeeded value (v.around m).time held
  exact ⟨_, _, treated _ _ _ _ ended, ⟨rfl, rfl, rfl, dispatched⟩,
    continues.trans (succeeds.continues (by simp)), rfl, hattempts, rfl, rfl⟩

/-- A failing attempt with no claims left: the job fails, and gets its record. -/
theorem runOnce_fails (awaits : b.Awaits first n doc)
    (registered : w.registry.find? first.jobType = some h)
    (forward : ∀ k, (v.around k).time ≤ (v.around (k + 1)).time) (due : doc.availableAt ≤ b.clock v)
    (last : n + 1 = first.maxAttempts.toNat) {error : Failure}
    (failing : failure? (v.results n) = some error) :
    ∃ doc' record b', w.runOnce.run.atBench v b =
        (.ok (some (.failed first.id first.maxAttempts (some record.id))), b') ∧
      b'.Stands doc' [record] (n + 1) ∧ first.Continues doc' ∧ doc'.status = .failed ∧
      doc'.attempts = first.maxAttempts ∧ doc'.error = some error ∧
      record.IsOf doc' := by
  obtain ⟨job, doc', m, hid, attempts, maxAttempts, held, renewal, continues, later, dispatched,
    treated⟩ := w.attempt_of_awaits v awaits registered forward due
  have same : doc'.id = job.id := by rw [continues.id, hid]
  rw [last, UInt32.ofNat_toNat] at attempts
  have spent : job.maxAttempts ≤ job.attempts := by
    rw [attempts, maxAttempts]
    exact UInt32.le_refl _
  obtain ⟨record, keys, now, ended, made⟩ := @handleFailure_atBench_fail handler w v doc' job
    (b.dispatched ++ [job]) (m + 1) b.store.keys error held same spent
  have ended := (finish_atBench_failing w v _ _ failing _).trans ended
  have hattempts : doc'.attempts = first.maxAttempts := by
    obtain ⟨_, _, _, rfl⟩ := renewal
    exact attempts
  rw [hid, hattempts] at ended
  have fails := Change.failed error now held
  exact ⟨_, record, _, treated _ _ _ _ ended, ⟨rfl, rfl, rfl, dispatched⟩,
    continues.trans (fails.continues (by simp)), rfl, hattempts, rfl, made⟩

/-- An iteration finds nothing when the job is at its end. -/
theorem runOnce_of_terminal {records : List DeadLetter} (stands : b.Stands doc records n)
    (terminal : doc.status.isTerminal = true) :
    ∃ b', w.runOnce.run.atBench v b = (.ok none, b') ∧ b'.Stands doc records n := by
  have unclaimable (now : Instant) : doc.isClaimable now = false := by
    cases claimable : doc.isClaimable now with
    | false => rfl
    | true =>
      rw [Job.status_of_isClaimable claimable] at terminal
      cases terminal
  have unexpired (now : Instant) : doc.lockExpired now = false := by
    cases expired : doc.lockExpired now with
    | false => rfl
    | true =>
      rw [Job.status_of_lockExpired expired] at terminal
      cases terminal
  rw [stands.eq, runOnce_atBench_none w v unclaimable unexpired]
  exact ⟨_, rfl, ⟨rfl, rfl, rfl, stands.dispatched⟩⟩

/-! ## All iterations -/

/-- The bench after so many iterations. -/
def benchAfter (b : Bench) : Nat → Bench
  | 0 => b
  | n + 1 => (w.runOnce.run.atBench v (benchAfter b n)).2

/-- What an iteration answers after so many others. -/
def answer (b : Bench) (n : Nat) : Except QueueError (Option Outcome) :=
  (w.runOnce.run.atBench v (w.benchAfter v b n)).1

/-- The clock does not go back, and no iteration begins before the time of a job that waits. -/
structure InTime (b : Bench) (id : Uuid) : Prop where
  forward : ∀ k, (v.around k).time ≤ (v.around (k + 1)).time
  due : ∀ n doc, (w.benchAfter v b n).store.find? id = some doc → doc.status = .queued →
    doc.availableAt ≤ (w.benchAfter v b n).clock v

/-- After so many iterations, the job stands so for good: it was handed to handlers this often, and
further iterations find nothing. -/
def Rests (b : Bench) (doc : Job) (records : List DeadLetter) (n : Nat) : Prop :=
  ∀ k, n ≤ k → (w.benchAfter v b k).Stands doc records n ∧ w.answer v b k = .ok none

/-- How a worker gets on with a job, iteration by iteration. -/
structure SeesThrough (b : Bench) (first : Job) : Prop where
  /-- While all handlers fail and claims are left, the job is tried again, after the delay of its
  attempt and not before. -/
  retries : ∀ n, n + 1 < first.maxAttempts.toNat → (∀ i ≤ n, (failure? (v.results i)).isSome) →
    w.answer v b n = .ok (some (.retrying first.id (UInt32.ofNat (n + 1))
        (w.settings.backoff.delayFor (UInt32.ofNat (n + 1))))) ∧
      ∃ doc p, (w.benchAfter v b (n + 1)).Awaits first (n + 1) doc ∧
        doc.error = failure? (v.results n) ∧
        (w.benchAfter v b n).passed ≤ p ∧ p < (w.benchAfter v b (n + 1)).passed ∧
        doc.availableAt = ((v.around p).time.add?
          ((w.settings.backoff.delayFor (UInt32.ofNat (n + 1))).toNat * 1000000 : Nat)).getD .last ∧
        ∀ worker time, time < doc.availableAt →
          ((w.benchAfter v b (n + 1)).store.claimNext worker time).1 = none
  /-- The first value ends it, with all failures before made up for. -/
  succeeds : ∀ n value, n < first.maxAttempts.toNat → (∀ i < n, (failure? (v.results i)).isSome) →
    v.results n = .ok value →
    w.answer v b n = .ok (some (.succeeded first.id)) ∧
      ∃ doc, w.Rests v b doc [] (n + 1) ∧ first.Continues doc ∧ doc.status = .succeeded ∧
        doc.attempts = UInt32.ofNat (n + 1) ∧ doc.result = some value ∧ doc.error = none
  /-- When no handler gives a value, the last claim ends it, and leaves one record, which has the
  content of the job and the last failure. -/
  fails : (∀ i < first.maxAttempts.toNat, (failure? (v.results i)).isSome) →
    ∃ n, n + 1 = first.maxAttempts.toNat ∧ ∃ doc record,
      w.answer v b n =
        .ok (some (.failed first.id first.maxAttempts (some record.id))) ∧
      w.Rests v b doc [record] (n + 1) ∧ first.Continues doc ∧ doc.status = .failed ∧
      doc.attempts = first.maxAttempts ∧ doc.error = failure? (v.results n) ∧
      record.error = failure? (v.results n) ∧ record.IsOf doc

theorem find?_of_stands {records : List DeadLetter} (stands : b.Stands doc records n)
    (same : doc.id = first.id) : b.store.find? first.id = some doc := by
  simp [Store.find?, stands.jobs, same]

/-- A job at its end stands so for good. -/
theorem rests_of_terminal {records : List DeadLetter}
    (stands : (w.benchAfter v b n).Stands doc records n) (terminal : doc.status.isTerminal = true) :
    w.Rests v b doc records n := by
  have still (k : Nat) : (w.benchAfter v b (n + k)).Stands doc records n := by
    induction k with
    | zero => exact stands
    | succ k ih =>
      obtain ⟨b', found, stands'⟩ := w.runOnce_of_terminal v ih terminal
      rw [← Nat.add_assoc, benchAfter, found]
      exact stands'
  intro k later
  obtain ⟨d, rfl⟩ := Nat.exists_eq_add_of_le later
  obtain ⟨b', found, -⟩ := w.runOnce_of_terminal v (still d) terminal
  exact ⟨still d, by rw [answer, found]⟩

/-- A job whose handlers failed so far waits for its next attempt. -/
theorem awaits_of_failing (start : b.Awaits first 0 first)
    (registered : w.registry.find? first.jobType = some h) (inTime : w.InTime v b first.id)
    (left : n < first.maxAttempts.toNat) (failing : ∀ i < n, (failure? (v.results i)).isSome) :
    ∃ doc, (w.benchAfter v b n).Awaits first n doc := by
  induction n with
  | zero => exact ⟨first, start⟩
  | succ n ih =>
    obtain ⟨doc, awaits⟩ := ih (by omega) fun i hi => failing i (by omega)
    obtain ⟨error, herror⟩ := Option.isSome_iff_exists.mp (failing n (by omega))
    have due := inTime.due n doc (find?_of_stands awaits.toStands awaits.continues.id) awaits.queued
    obtain ⟨doc', b', -, retried, awaits', -⟩ :=
      w.runOnce_retries v awaits registered inTime.forward due left herror
    rw [benchAfter, retried]
    exact ⟨doc', awaits'⟩

/-- A worker sees a job through from where it waits for its first attempt. -/
theorem seesThrough_of_awaits (start : b.Awaits first 0 first)
    (registered : w.registry.find? first.jobType = some h) (inTime : w.InTime v b first.id)
    (claims : 0 < first.maxAttempts.toNat) : w.SeesThrough v b first where
  retries n left failing := by
    obtain ⟨doc, awaits⟩ := w.awaits_of_failing v start registered inTime (by omega)
      fun i hi => failing i (Nat.le_of_lt hi)
    have due := inTime.due n doc (find?_of_stands awaits.toStands awaits.continues.id) awaits.queued
    obtain ⟨error, herror⟩ := Option.isSome_iff_exists.mp (failing n (Nat.le_refl n))
    obtain ⟨doc', b', p, retried, awaits', herror', later, earlier, waits⟩ :=
      w.runOnce_retries v awaits registered inTime.forward due left herror
    have after : w.benchAfter v b (n + 1) = b' := by rw [benchAfter, retried]
    rw [answer, retried, after]
    refine ⟨rfl, doc', p, awaits', by rw [herror', herror], later, earlier, waits, ?_⟩
    intro worker time early
    have unclaimable : doc'.isClaimable time = false := by
      have notYet : ¬doc'.availableAt ≤ time := fun late => Instant.not_lt_of_le late early
      simp [Job.isClaimable, notYet]
    rw [awaits'.eq, Store.claimNext_single_none _ _ worker unclaimable]
  succeeds n value left failing given := by
    obtain ⟨doc, awaits⟩ := w.awaits_of_failing v start registered inTime left failing
    have due := inTime.due n doc (find?_of_stands awaits.toStands awaits.continues.id) awaits.queued
    obtain ⟨doc', b', succeeded, stands, continues, status, rest⟩ :=
      w.runOnce_succeeds v awaits registered inTime.forward due given
    have after : w.benchAfter v b (n + 1) = b' := by rw [benchAfter, succeeded]
    rw [answer, succeeded]
    exact ⟨rfl, doc', w.rests_of_terminal v (after ▸ stands) (by rw [status]; rfl), continues,
      status, rest⟩
  fails failing := by
    obtain ⟨n, last⟩ : ∃ n, n + 1 = first.maxAttempts.toNat :=
      ⟨first.maxAttempts.toNat - 1, Nat.sub_add_cancel claims⟩
    obtain ⟨doc, awaits⟩ := w.awaits_of_failing v start registered inTime (n := n) (by omega)
      fun i hi => failing i (by omega)
    have due := inTime.due n doc (find?_of_stands awaits.toStands awaits.continues.id) awaits.queued
    obtain ⟨error, herror⟩ := Option.isSome_iff_exists.mp (failing n (by omega))
    obtain ⟨doc', record, b', failed, stands, continues, status, attempts, herror', made⟩ :=
      w.runOnce_fails v awaits registered inTime.forward due last herror
    have after : w.benchAfter v b (n + 1) = b' := by rw [benchAfter, failed]
    refine ⟨n, last, doc', record, by rw [answer, failed], ?_, continues, status, attempts,
      by rw [herror', herror], by rw [made.error, herror', herror], made⟩
    exact w.rests_of_terminal v (after ▸ stands) (by rw [status]; rfl)

end Worker

/-- A job that was submitted to an empty store waits there for its first attempt. -/
theorem Client.awaits_of_enqueue {c : Client} {r : NewJob} {ahead : Nat → Surroundings}
    {first : Job}
    (accepted : ((c.enqueue r : QueueProgram handler Job).run.alone .empty ahead).1 = .ok first) :
    (Bench.opening ((c.enqueue r : QueueProgram handler Job).run.alone .empty ahead).2.1).Awaits
      first 0 first ∧ 0 < first.maxAttempts.toNat := by
  obtain ⟨n, alone⟩ := @Client.alone_enqueue handler c r .empty ahead
  rw [alone] at accepted ⊢
  dsimp only at accepted ⊢
  rw [submitted] at accepted ⊢
  rcases c.check_cases r with ⟨-, why, refused | refused⟩ | ⟨proper, admitted⟩
  · rw [refused] at accepted
    cases accepted
  · rw [refused] at accepted
    cases accepted
  · rw [admitted] at accepted ⊢
    cases accepted
    have some_claim : r.maxAttempts.getD c.settings.defaultMaxAttempts ≠ 0 :=
      fun none => proper (.inr (.inr none))
    refine ⟨⟨⟨rfl, rfl, rfl, rfl⟩, rfl, rfl, .refl _⟩, Nat.pos_of_ne_zero fun zero => some_claim ?_⟩
    exact UInt32.toNat_inj.mp zero

/-- **A worker sees a job through.** A client submits a job to an empty store, and one worker, which
has a handler for its type, works at it iteration by iteration, on a clock that does not go back and
never before the time of the job. Handlers may give values, fail or panic, in any order. As long as
they fail and claims are left, the job is tried again, with the delay that belongs to the number of
the attempt, and nobody can claim it sooner; the first value that comes in time makes it succeed;
and if none does, the last claim makes it fail, with one record of its last failure. Then nothing
changes any more. -/
theorem Worker.sees_through {w : Worker handler} {v : Scenery} {c : Client} {r : NewJob}
    {ahead : Nat → Surroundings} {first : Job} {h : handler}
    (accepted : ((c.enqueue r : QueueProgram handler Job).run.alone .empty ahead).1 = .ok first)
    (registered : w.registry.find? first.jobType = some h)
    (inTime : w.InTime v
      (.opening ((c.enqueue r : QueueProgram handler Job).run.alone .empty ahead).2.1) first.id) :
    w.SeesThrough v
      (.opening ((c.enqueue r : QueueProgram handler Job).run.alone .empty ahead).2.1) first := by
  obtain ⟨start, claims⟩ := Client.awaits_of_enqueue accepted
  exact w.seesThrough_of_awaits v start registered inTime claims

/-! ### A letter and its second try

The handler panics in the morning. In the evening, when the delay is over, it is called a second
time, and gives a value or panics again.
-/

namespace SecondTry

def client : Client := ⟨.standard, false⟩

def letter : NewJob := ⟨"mail", .object [], some 2, none⟩

def around (k : Nat) : Surroundings :=
  ⟨if k < 20 then LateWorker.morning else LateWorker.evening, 0, .ofNat 1, .ok .null, false, none⟩

/-- The day on which the second try ends so. -/
def scenery (second : HandlerResult) : Scenery where
  around := around
  renewals _ := [LateWorker.morning]
  results k := if k = 0 then .error (.panic none) else second

/-- How the second try ends. -/
def ends : List HandlerResult := [.ok .null, .error (.panic (some "torn"))]

/-- The letter as it is stored. -/
def first : Job := client.stamp ⟨"mail", .object [], 2, .normal⟩ (.ofNat 1) LateWorker.morning

theorem accepted :
    ((client.enqueue letter : QueueProgram Unit Job).run.alone .empty around).1 = .ok first := rfl

def bench : Bench :=
  .opening ((client.enqueue letter : QueueProgram Unit Job).run.alone .empty around).2.1

def worker : Worker Unit := ⟨"a", .standard, ⟨[("mail", ())]⟩⟩

/-- The bench after so many iterations. -/
def after (second : HandlerResult) (n : Nat) : Bench :=
  worker.benchAfter (scenery second) bench n

theorem due_early : ∀ second ∈ ends, ∀ n < 2, ((after second n).store.find? first.id).all
    (fun doc => doc.availableAt ≤ (after second n).clock (scenery second)) = true := by
  decide +kernel

/-- The second try is the last one, and so the letter is left alone. -/
theorem rests_after {second : HandlerResult} (ended : second ∈ ends) :
    ∃ doc, doc.status.isTerminal = true ∧
      worker.Rests (scenery second) bench doc (after second 2).store.deadLetters 2 := by
  have one : ∀ second ∈ ends, (after second 2).store.jobs.length = 1 := by decide +kernel
  have done : ∀ second ∈ ends,
      (after second 2).store.jobs.all (fun doc => doc.status.isTerminal) = true := by
    decide +kernel
  have idle : ∀ second ∈ ends, (after second 2).renewing = none := by decide +kernel
  have dispatched : ∀ second ∈ ends,
      (after second 2).dispatched.map Job.attempts = attemptNumbers 2 := by
    decide +kernel
  obtain ⟨doc, jobs⟩ := List.length_eq_one_iff.mp (one second ended)
  have terminal : doc.status.isTerminal = true := by simpa [jobs] using done second ended
  have stands : (after second 2).Stands doc (after second 2).store.deadLetters 2 :=
    ⟨idle second ended, jobs, rfl, dispatched second ended⟩
  exact ⟨doc, terminal, worker.rests_of_terminal (scenery second) stands terminal⟩

theorem inTime {second : HandlerResult} (ended : second ∈ ends) :
    worker.InTime (scenery second) bench first.id where
  forward k := by
    show (if k < 20 then _ else _) ≤ if k + 1 < 20 then _ else _
    split <;> split
    · decide
    · decide
    · omega
    · decide
  due n doc found queued := by
    rcases Nat.lt_or_ge n 2 with early | late
    · have due := due_early second ended n early
      rw [after, found] at due
      exact of_decide_eq_true due
    · obtain ⟨last, terminal, rests⟩ := rests_after ended
      have only := Store.mem_of_find? found
      rw [(rests n late).1.jobs, List.mem_singleton] at only
      rw [← only, queued] at terminal
      cases terminal

end SecondTry

/-- A letter whose second try gives a value is sent. One whose second try panics, too, fails, and
there is one record of it, with the letter and the second panic. -/
theorem Worker.sees_through_second_try :
    (SecondTry.worker.answer (SecondTry.scenery (.ok .null)) SecondTry.bench 0 =
        .ok (some (.retrying (.ofNat 1) 1 1000)) ∧
      SecondTry.worker.answer (SecondTry.scenery (.ok .null)) SecondTry.bench 1 =
        .ok (some (.succeeded (.ofNat 1)))) ∧
    ∃ record, SecondTry.worker.answer (SecondTry.scenery (.error (.panic (some "torn"))))
        SecondTry.bench 1 = .ok (some (.failed (.ofNat 1) 2 (some record.id))) ∧
      (SecondTry.after (.error (.panic (some "torn"))) 2).store.deadLetters = [record] ∧
      record.jobType = "mail" ∧ record.payload = .object [] ∧ record.attempts = 2 ∧
      record.error = some ⟨"HANDLER_PANIC", "Job handler panicked", "torn"⟩ := by
  constructor
  · have course : SecondTry.worker.SeesThrough (SecondTry.scenery (.ok .null)) SecondTry.bench
        SecondTry.first :=
      Worker.sees_through SecondTry.accepted (h := ()) rfl (SecondTry.inTime List.mem_cons_self)
    have delay : SecondTry.worker.settings.backoff.delayFor 1 = 1000 := by decide +kernel
    obtain ⟨retried, -⟩ := course.retries 0 (by decide) (by decide)
    obtain ⟨succeeded, -⟩ := course.succeeds 1 .null (by decide) (by decide) rfl
    refine ⟨retried.trans ?_, succeeded⟩
    exact congrArg (fun ms => Except.ok (some (Outcome.retrying (.ofNat 1) 1 ms))) delay
  · have course : SecondTry.worker.SeesThrough
        (SecondTry.scenery (.error (.panic (some "torn")))) SecondTry.bench SecondTry.first :=
      Worker.sees_through SecondTry.accepted (h := ()) rfl
        (SecondTry.inTime (List.mem_cons_of_mem _ List.mem_cons_self))
    obtain ⟨n, last, doc, record, failed, rests, continues, -, attempts, -, error, made⟩ :=
      course.fails (by decide)
    obtain rfl : n = 1 := Nat.succ.inj last
    have stands : (SecondTry.after (.error (.panic (some "torn"))) 2).Stands doc [record] 2 :=
      (rests 2 (Nat.le_refl 2)).1
    exact ⟨record, failed, stands.records, made.jobType.trans continues.jobType,
      made.payload.trans continues.payload, made.attempts.trans attempts, error⟩

end JobQueue
