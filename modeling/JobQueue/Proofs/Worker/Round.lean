import JobQueue.Proofs.Interleaving.Burial
import JobQueue.Proofs.Store.ClaimOrder
import JobQueue.Proofs.Store.ExpiredLocks
import JobQueue.Proofs.Store.Records
import JobQueue.Proofs.Worker.Parts

/-!
# An iteration in any store

A worker that works alone takes back the locks that ran out, makes the records of the jobs that this
fails, and treats the job whose turn it is. What it answers is what it leaves in the store.

* `Scenery.burials`: the records of a pass, and `Worker.claim_ends`: the pass and the claim.
* `Store.Next`: the job whose turn it is, and `Store.claimNext_next`: a claim takes it.
* `Worker.Closing.succeeded_iff`, `Worker.Closing.retrying_iff` and `Worker.Closing.failed_iff`:
  which outcome an attempt has.
* `Worker.Agrees`: what an iteration answers and what it leaves, and `Worker.runOnce_agrees`: so for
  the store after any calls.
-/

namespace JobQueue

variable {handler : Type}

/-- A job whose attempt, which it was claimed for at one time, ended at another: the attempt is
counted, and the lock is gone. -/
def Job.attempted (job : Job) (claim now : Instant) : Job :=
  { job with
    attempts := job.attempts + 1
    startedAt := some (job.startedAt.getD claim)
    lockOwner := none
    lockedAt := none
    lastHeartbeatAt := none
    updatedAt := now }

/-- The record that an outcome names. -/
def Outcome.record? : Outcome → Option Uuid
  | .failed _ _ record => record
  | _ => none

/-! ## The pass and the claim -/

namespace Scenery

variable (v : Scenery)

/-- The identifiers that are offered before an effect are distinct, and no record of the store has
one of them. -/
structure Fresh (s : Store) (n : Nat) : Prop where
  distinct : ∀ j < n, ∀ k < n, (v.around j).id = (v.around k).id → j = k
  new : ∀ record ∈ s.deadLetters, ∀ k < n, record.id ≠ (v.around k).id

/-- Records that got their identifiers one after the other, from the effect `n` on and before the
effect `m`. -/
def Draws (n m : Nat) (records : List DeadLetter) : Prop :=
  ∃ effects : List Nat, records.map DeadLetter.id = effects.map (fun k => (v.around k).id) ∧
    effects.Pairwise (· < ·) ∧ ∀ k ∈ effects, n ≤ k ∧ k < m

variable {v} in
theorem Draws.mono {n m n' m' : Nat} {records : List DeadLetter} (h : v.Draws n m records)
    (before : ∀ k, n ≤ k → k < m → n' ≤ k ∧ k < m') : v.Draws n' m' records := by
  obtain ⟨effects, ids, sorted, range⟩ := h
  exact ⟨effects, ids, sorted, fun k hk => before k (range k hk).1 (range k hk).2⟩

variable {v} in
theorem Draws.append {n m l : Nat} {records more : List DeadLetter} (h : v.Draws n m records)
    (h' : v.Draws m l more) (later : n ≤ m) (further : m ≤ l) : v.Draws n l (records ++ more) := by
  obtain ⟨effects, ids, sorted, range⟩ := h
  obtain ⟨effects', ids', sorted', range'⟩ := h'
  refine ⟨effects ++ effects', ?_, List.pairwise_append.mpr ⟨sorted, sorted', ?_⟩, ?_⟩
  · rw [List.map_append, List.map_append, ids, ids']
  · intro j hj k hk
    exact Nat.lt_of_lt_of_le (range j hj).2 (range' k hk).1
  · intro k hk
    rcases List.mem_append.mp hk with hk | hk
    · exact ⟨(range k hk).1, Nat.lt_of_lt_of_le (range k hk).2 further⟩
    · exact ⟨Nat.le_trans later (range' k hk).1, (range' k hk).2⟩

variable {v} in
/-- Fresh identifiers make new records. -/
theorem Draws.new {s : Store} {n m : Nat} {records : List DeadLetter} (h : v.Draws n m records)
    (fresh : v.Fresh s m) : (records.map DeadLetter.id).Nodup ∧
      ∀ record ∈ records, ∀ other ∈ s.deadLetters, other.id ≠ record.id := by
  obtain ⟨effects, ids, sorted, range⟩ := h
  constructor
  · rw [ids]
    refine List.Nodup.map_on ?_ (sorted.imp Nat.ne_of_lt)
    intro j hj k hk
    exact fresh.distinct j (range j hj).2 k (range k hk).2
  · intro record hrecord other hother
    have drawn : record.id ∈ effects.map fun k => (v.around k).id :=
      ids ▸ List.mem_map_of_mem hrecord
    obtain ⟨k, hk, same⟩ := List.mem_map.mp drawn
    rw [← same]
    exact fresh.new other hother k (range k hk).2

/-- The records of some jobs, made one after the other from an effect on. -/
def burials (n : Nat) : List Job → List DeadLetter
  | [] => []
  | job :: rest => .ofJob (v.around (n + 3)).id job (v.around (n + 2)).time :: burials (n + 8) rest

theorem burials_isOf (n : Nat) (jobs : List Job) :
    List.Forall₂ DeadLetter.IsOf (v.burials n jobs) jobs := by
  induction jobs generalizing n with
  | nil => exact .nil
  | cons job rest ih => exact .cons (DeadLetter.isOf_ofJob _ job _) (ih (n + 8))

theorem burials_draws (n : Nat) (jobs : List Job) :
    v.Draws n (n + 8 * jobs.length) (v.burials n jobs) := by
  induction jobs generalizing n with
  | nil => exact ⟨[], rfl, .nil, by simp⟩
  | cons job rest ih =>
    obtain ⟨effects, ids, sorted, range⟩ := ih (n + 8)
    refine ⟨(n + 3) :: effects, ?_, ?_, ?_⟩
    · rw [burials, List.map_cons, List.map_cons, ids]
      rfl
    · refine List.pairwise_cons.mpr ⟨?_, sorted⟩
      intro k hk
      have := range k hk
      omega
    · intro k hk
      rw [List.length_cons]
      rcases List.mem_cons.mp hk with rfl | hk
      · omega
      · have := range k hk
        omega

end Scenery

namespace Store

/-- The job whose turn it is. -/
structure Next (s : Store) (now : Instant) (job : Job) : Prop where
  mem : job ∈ s.jobs
  claimable : job.isClaimable now
  first : ∀ other ∈ s.jobs, other.isClaimable now → job.turn ≤ other.turn

/-- A claim finds no job that can be claimed, or takes the one whose turn it is. -/
theorem claimNext_next (s : Store) (worker : String) (now : Instant) :
    ((∀ job ∈ s.jobs, ¬job.isClaimable now) ∧ s.claimNext worker now = (none, s)) ∨
      ∃ old, s.Next now old ∧
        s.claimNext worker now = (some (claimed old worker now), s.put (claimed old worker now)) := by
  cases found : s.nextClaimable? now with
  | none =>
    left
    constructor
    · exact List.filter_eq_nil_iff.mp (firstOf_eq_none.mp found)
    · rw [claimNext, found]
  | some old =>
    right
    obtain ⟨mem, claimable⟩ := nextClaimable?_eq_some found
    refine ⟨old, ⟨mem, claimable, ?_⟩, ?_⟩
    · intro other hother hclaimable
      exact turn_le_of_firstOf found other (List.mem_filter.mpr ⟨hother, hclaimable⟩)
    · rw [claimNext, found]
      rfl

section Failed

variable {s : Store} {job : Job} {key : String} (registers : s.Registers)

include registers

/-- The key of a job that fails is free then. -/
theorem holder?_putFailed_own (found : s.find? job.id = some job)
    (carries : job.idempotencyKey = some key) (error : Failure) (now : Instant) :
    (s.putFailed job error now).holder? key = none := by
  have own : (key, job.id) ∈ s.keys := by
    apply registers.lists
    rw [keyOf?, found]
    exact carries
  refine holder?_eq_none_of_gone registers.distinct ?_ own ?_
  · intro e entry
    exact (mem_releaseKey.mp entry).1
  · intro entry
    exact (mem_releaseKey.mp entry).2 ⟨carries, rfl⟩

/-- No other key changes hands. -/
theorem holder?_putFailed_other (differs : job.idempotencyKey ≠ some key) (error : Failure)
    (now : Instant) : (s.putFailed job error now).holder? key = s.holder? key := by
  have distinct : ((s.putFailed job error now).keys.map Prod.fst).Nodup :=
    registers.distinct.sublist ((releaseKey_sublist _ _).map _)
  refine holder?_eq_of_kept registers.distinct distinct ?_
  intro id
  show _ ∈ releaseKey s.keys job ↔ _
  rw [mem_releaseKey, and_iff_left_iff_imp]
  intro _ same
  exact differs same.1

end Failed

end Store

namespace Worker

variable (w : Worker handler) (v : Scenery) (s : Store) (jobs : List Job) (n : Nat)

theorem buryExhausted_ends (job : Job) :
    (buryExhausted job : Program handler Unit).atBench v ⟨s, none, jobs, n⟩ =
      ((), ⟨s.insertDeadLetter (.ofJob (v.around (n + 3)).id job (v.around (n + 2)).time), none, jobs,
        n + 8⟩) := rfl

/-- The records of a pass are written. -/
theorem buryAll_ends (exhausted : List Job) :
    (buryAll exhausted : Program handler Unit).atBench v ⟨s, none, jobs, n⟩ =
      ((), ⟨(v.burials n exhausted).foldl Store.insertDeadLetter s, none, jobs,
        n + 8 * exhausted.length⟩) := by
  induction exhausted generalizing s n with
  | nil => rfl
  | cons job rest ih =>
    rw [buryAll, Program.atBench_bind_of v (buryExhausted_ends v s jobs n job), ih]
    have total : n + 8 + 8 * rest.length = n + 8 * (job :: rest).length := by
      rw [List.length_cons]
      omega
    rw [total]
    rfl

/-- The store after a pass with its records. -/
def unstuck (s : Store) (n : Nat) : Store :=
  (v.burials (n + 4) (s.releaseStuck (v.around n).time).1.exhausted).foldl Store.insertDeadLetter
    (s.releaseStuck (v.around n).time).2

theorem jobs_unstuck : (unstuck v s n).jobs = (s.releaseStuck (v.around n).time).2.jobs := by
  rw [unstuck, Store.foldl_insertDeadLetter]

theorem keys_unstuck : (unstuck v s n).keys = (s.releaseStuck (v.around n).time).2.keys := by
  rw [unstuck, Store.foldl_insertDeadLetter]

/-- The records of the pass change no job. -/
theorem find?_unstuck (id : Uuid) :
    (unstuck v s n).find? id = (s.releaseStuck (v.around n).time).2.find? id := by
  rw [Store.find?, jobs_unstuck]
  rfl

theorem uniqueIds_unstuck (unique : s.UniqueIds) : (unstuck v s n).UniqueIds := by
  rw [Store.UniqueIds, jobs_unstuck]
  exact Store.uniqueIds_perform unique (.releaseStuck (v.around n).time)

theorem registers_unstuck (registers : s.Registers) (unique : s.UniqueIds) :
    (unstuck v s n).Registers := by
  have passed := Store.registers_releaseStuck registers unique (v.around n).time
  exact passed.congr (jobs_unstuck v s n) (keys_unstuck v s n)

/-- The pass over expired locks. -/
theorem releaseStuck_ends :
    ∃ m, w.releaseStuck.atBench v ⟨s, none, jobs, n⟩ =
        ((), ⟨unstuck v s n, none, jobs, m⟩) ∧ n < m ∧
      ∀ k < n + 4 + 8 * (s.releaseStuck (v.around n).time).1.exhausted.length, n + 4 ≤ k → k < m := by
  have released : s.perform (.releaseStuck (v.around n).time) =
      (.ok (s.releaseStuck (v.around n).time).1, (s.releaseStuck (v.around n).time).2) := rfl
  have reported (worker : String) (requeued exhausted : UInt64) (t : Store) :
      (Program.reportReleased worker requeued exhausted : Program handler Unit).atBench v
        ⟨t, none, jobs, n + 2⟩ = ((), ⟨t, none, jobs, n + 4⟩) := rfl
  rw [releaseStuck, Program.atBench_bind_of v (Program.atBench_now v _ _ _),
    Program.atBench_bind_of v (Program.atBench_requestCall v _ _ _ released)]
  dsimp only
  by_cases empty : (s.releaseStuck (v.around n).time).1.isEmpty = true
  · have nobody : (s.releaseStuck (v.around n).time).1.exhausted = [] := by
      simp only [StuckRelease.isEmpty, Bool.and_eq_true, List.isEmpty_iff] at empty
      exact empty.2
    rw [if_pos empty, unstuck, nobody]
    refine ⟨n + 2, rfl, by omega, ?_⟩
    intro k before after
    rw [List.length_nil] at before
    omega
  · rw [if_neg empty, Program.atBench_bind_of v (reported _ _ _ _), buryAll_ends]
    exact ⟨_, rfl, by omega, fun k before _ => before⟩

/-- The pass and the claim. -/
theorem claim_ends :
    ∃ m, w.claim.run.atBench v ⟨s, none, jobs, n⟩ =
        (.ok ((unstuck v s (n + 1)).claimNext w.id (v.around m).time).1,
          ⟨((unstuck v s (n + 1)).claimNext w.id (v.around m).time).2, none, jobs, m + 3⟩) ∧
      n + 1 < m ∧ ∀ k < n + 5 + 8 * (s.releaseStuck (v.around (n + 1)).time).1.exhausted.length,
        n + 5 ≤ k → k < m := by
  obtain ⟨m, passed, later, within⟩ := releaseStuck_ends w v s jobs (n + 1)
  refine ⟨m, ?_, later, ?_⟩
  · refine QueueProgram.atBench_within v s jobs n ?_
    rw [QueueProgram.atBench_bind_ok v (QueueProgram.atBench_lift v passed),
      QueueProgram.atBench_bind_ok v (QueueProgram.atBench_now v _ _ _)]
    rfl
  · intro k before after
    exact within k (by omega) (by omega)

/-! ## Outcomes -/

section Closing

variable {w v s jobs n} {m : Nat} {result : HandlerResult} {job : Job} {outcome : Outcome}
  {t : Store} (closing : w.Closing v n m result s job outcome t)

include closing

theorem Closing.succeeded_iff : outcome = .succeeded job.id ↔
    (w.registry.find? job.jobType).isSome ∧ ∃ value, result = .ok value := by
  cases closing with
  | succeeded registered ended =>
    exact iff_of_true rfl ⟨by rw [registered]; rfl, _, ended⟩
  | retrying registered failing =>
    refine iff_of_false (by simp) ?_
    rintro ⟨-, value, rfl⟩
    cases failing
  | failed doomed =>
    refine iff_of_false (by simp) ?_
    rintro ⟨known, value, rfl⟩
    cases doomed with
    | unknown unregistered =>
      rw [unregistered] at known
      cases known
    | spent registered failing => cases failing

theorem Closing.retrying_iff : (∃ attempts delay, outcome = .retrying job.id attempts delay) ↔
    (w.registry.find? job.jobType).isSome ∧ (failure? result).isSome ∧
      job.attempts < job.maxAttempts := by
  cases closing with
  | succeeded registered ended =>
    refine iff_of_false (by simp) ?_
    rintro ⟨-, failing, -⟩
    rw [ended] at failing
    cases failing
  | retrying registered failing left =>
    refine iff_of_true ⟨_, _, rfl⟩ ⟨by rw [registered]; rfl, by rw [failing]; rfl, left⟩
  | failed doomed =>
    refine iff_of_false (by simp) ?_
    rintro ⟨known, failing, left⟩
    cases doomed with
    | unknown unregistered =>
      rw [unregistered] at known
      cases known
    | spent registered failing spent => exact absurd left (UInt32.not_lt.mpr spent)

theorem Closing.failed_iff : (∃ attempts record, outcome = .failed job.id attempts record) ↔
    w.registry.find? job.jobType = none ∨
      (failure? result).isSome ∧ job.maxAttempts ≤ job.attempts := by
  cases closing with
  | succeeded registered ended =>
    refine iff_of_false (by simp) ?_
    rintro (unregistered | ⟨failing, -⟩)
    · rw [registered] at unregistered
      cases unregistered
    · rw [ended] at failing
      cases failing
  | retrying registered failing left =>
    refine iff_of_false (by simp) ?_
    rintro (unregistered | ⟨-, spent⟩)
    · rw [registered] at unregistered
      cases unregistered
    · exact absurd left (UInt32.not_lt.mpr spent)
  | failed doomed =>
    refine iff_of_true ⟨_, _, rfl⟩ ?_
    cases doomed with
    | unknown unregistered => exact .inl unregistered
    | spent registered failing spent => exact .inr ⟨by rw [failing]; rfl, spent⟩

theorem Closing.job_eq : outcome.job = job.id := by
  cases closing <;> rfl

theorem Closing.not_lost (id : Uuid) : outcome ≠ .lockLost id := by
  cases closing <;> exact Outcome.noConfusion

/-- No other document changes. -/
theorem Closing.find?_eq {id : Uuid} (other : id ≠ job.id) : t.find? id = s.find? id := by
  cases closing <;> exact s.find?_put_of_ne other

/-- A job that fails for good gets a record, and no other one does. -/
theorem Closing.records : ∃ letters, t.deadLetters =
      letters.foldl (fun kept record => Store.putDeadLetter record kept) s.deadLetters ∧
    letters.map DeadLetter.id = outcome.record?.toList ∧ v.Draws n m letters := by
  cases closing with
  | succeeded | retrying => exact ⟨[], rfl, rfl, [], rfl, .nil, by simp⟩
  | @failed error k i j doomed after made drawn before =>
    refine ⟨[_], rfl, rfl, [j], rfl, List.pairwise_singleton _ _, ?_⟩
    intro other hother
    rw [List.mem_singleton.mp hother]
    omega

end Closing

/-! ## What is answered and what is stored -/

/-- The error of a job that fails for good: that its type has no handler, or the failure of the
handler. -/
def lastError? (w : Worker handler) (result : HandlerResult) (jobType : String) : Option Failure :=
  match w.registry.find? jobType with
  | none => some ⟨"INVALID_JOB_TYPE", "Invalid job type",
      "no handler registered for job type '" ++ jobType ++ "'"⟩
  | some _ => failure? result

/-- What a worker answers of a job that it claimed at one time agrees with what it leaves when it
ends the attempt at another. -/
structure Treats (w : Worker handler) (result : HandlerResult) (s : Store) (old : Job)
    (claim now : Instant) (outcome : Outcome) (after : Store) : Prop where
  names : outcome.job = old.id
  /-- It succeeded: a handler gave a value. -/
  succeeded : outcome = .succeeded old.id ↔
    (w.registry.find? old.jobType).isSome ∧ ∃ value, result = .ok value
  /-- It is to be tried again: a handler failed, and claims are left. -/
  retrying : (∃ attempts delay, outcome = .retrying old.id attempts delay) ↔
    (w.registry.find? old.jobType).isSome ∧ (failure? result).isSome ∧
      old.attempts + 1 < old.maxAttempts
  /-- It failed for good: there is no handler, or the handler failed, and no claims are left. -/
  failed : (∃ attempts record, outcome = .failed old.id attempts record) ↔
    w.registry.find? old.jobType = none ∨
      (failure? result).isSome ∧ old.maxAttempts ≤ old.attempts + 1
  not_lost : ∀ id, outcome ≠ .lockLost id
  /-- The value is stored, and no error. -/
  value : ∀ value, outcome = .succeeded old.id → result = .ok value →
    after.find? old.id = some
      { old.attempted claim now with
        status := .succeeded
        result := some value
        error := none
        finishedAt := some now }
  /-- The job is stored with the error, and waits for its next attempt until the delay is over, or to
  the end of time. -/
  again : ∀ attempts delay, outcome = .retrying old.id attempts delay →
    attempts = old.attempts + 1 ∧ delay = w.settings.backoff.delayFor attempts ∧
      ∃ error, failure? result = some error ∧ after.find? old.id = some
        { old.attempted claim now with
          status := .queued
          error := some error
          availableAt := (now.add? (delay.toNat * 1000000 : Nat)).getD .last }
  /-- The job is stored with the error that it failed by, its key is free, and there is a record of
  it. -/
  last : ∀ attempts record, outcome = .failed old.id attempts record →
    attempts = old.attempts + 1 ∧
      (∀ key, old.idempotencyKey = some key → after.holder? key = none) ∧
        ∃ doc letter, after.find? old.id = some doc ∧
          doc =
            { old.attempted claim now with
              status := .failed
              error := w.lastError? result old.jobType
              finishedAt := some now
              idempotencyKey := none } ∧
          doc.error ≠ none ∧ record = some letter.id ∧ letter.IsOf doc ∧
            after.findDeadLetter? letter.id = some letter
  /-- No other key changes hands. -/
  keys : ∀ key, (∀ attempts record, outcome = .failed old.id attempts record →
    old.idempotencyKey ≠ some key) → after.holder? key = s.holder? key

theorem Dooms.lastError?_eq {result : HandlerResult} {job : Job} {error : Failure}
    (doomed : w.Dooms result job error) : w.lastError? result job.jobType = some error := by
  unfold lastError?
  cases doomed with
  | unknown unregistered => rw [unregistered]
  | spent registered failing =>
    rw [registered]
    exact failing

/-- An attempt that ends in one of the three ways is answered as it is stored. -/
theorem Closing.treats {m : Nat} {result : HandlerResult} {s : Store} {old : Job} {claim : Instant}
    {outcome : Outcome} {t : Store}
    (closing : w.Closing v n m result s (Store.claimed old w.id claim) outcome t)
    (registers : s.Registers) (found : s.find? (Store.claimed old w.id claim).id =
      some (Store.claimed old w.id claim)) :
    ∃ k, n ≤ k ∧ k < m ∧ w.Treats result s old claim (v.around k).time outcome t := by
  have treats (now : Instant) (value) (again) (last) (keys) :
      w.Treats result s old claim now outcome t :=
    { names := closing.job_eq
      succeeded := closing.succeeded_iff
      retrying := closing.retrying_iff
      failed := closing.failed_iff
      not_lost := closing.not_lost
      value := value
      again := again
      last := last
      keys := keys }
  cases closing with
  | @succeeded h value k registered ended after before =>
    refine ⟨k, after, before, treats _ ?_ ?_ ?_ ?_⟩
    · intro other _ same
      rw [ended] at same
      cases same
      exact s.find?_put_self (Store.succeeded (Store.claimed old w.id claim) value _)
    · rintro _ _ ⟨⟩
    · rintro _ _ ⟨⟩
    · intro key _
      rfl
  | @retrying h error k registered failing left after before =>
    refine ⟨k, after, before, treats _ ?_ ?_ ?_ ?_⟩
    · rintro _ ⟨⟩
    · rintro _ _ ⟨⟩
      refine ⟨rfl, rfl, error, failing, ?_⟩
      rw [← retryAt_eq]
      exact s.find?_put_self (Store.retried (Store.claimed old w.id claim) error _ _)
    · rintro _ _ ⟨⟩
    · intro key _
      rfl
  | @failed error k i j doomed after made drawn before =>
    refine ⟨k, after, by omega, treats _ ?_ ?_ ?_ ?_⟩
    · rintro _ ⟨⟩
    · rintro _ _ ⟨⟩
    · rintro _ _ ⟨⟩
      have why : w.lastError? result old.jobType = some error := doomed.lastError?_eq
      refine ⟨rfl, ?_, Store.failed (Store.claimed old w.id claim) error (v.around k).time,
        .ofJob (v.around j).id (Store.failed (Store.claimed old w.id claim) error (v.around k).time)
          (v.around i).time, ?_, ?_, ?_, rfl, DeadLetter.isOf_ofJob _ _ _, ?_⟩
      · intro key carries
        exact Store.holder?_putFailed_own registers found carries error (v.around k).time
      · exact s.find?_put_self (Store.failed (Store.claimed old w.id claim) error _)
      · rw [why]
        rfl
      · exact Option.some_ne_none error
      · exact (Store.find?_putDeadLetter _ _ _).trans (if_pos rfl)
    · intro key other
      have differs : (Store.claimed old w.id claim).idempotencyKey ≠ some key := other _ _ rfl
      exact Store.holder?_putFailed_other registers differs error (v.around k).time

/-- An iteration answers what it leaves: the pass over expired locks was made at `pass`, the claim at
`claim`, and the attempt ended at `finish`. -/
structure Agrees (w : Worker handler) (result : HandlerResult) (s : Store)
    (pass claim finish : Instant) (answer : Option Outcome) (after : Store) : Prop where
  /-- The pass does what it is to do. -/
  unstuck : s.Pass pass (s.releaseStuck pass).1 (s.releaseStuck pass).2
  /-- It answers with nothing when no job can be claimed after the pass. -/
  idle : answer = none ↔ ∀ job ∈ (s.releaseStuck pass).2.jobs, ¬job.isClaimable claim
  /-- Otherwise it treats the job whose turn it is. -/
  treats : ∀ outcome, answer = some outcome → ∃ old, (s.releaseStuck pass).2.Next claim old ∧
    w.Treats result (s.releaseStuck pass).2 old claim finish outcome after
  /-- All others are as the pass left them. -/
  others : ∀ id, (∀ outcome, answer = some outcome → outcome.job ≠ id) →
    after.find? id = (s.releaseStuck pass).2.find? id
  /-- The new records are those of the jobs that the pass failed, and that of the attempt. -/
  records : ∃ buried letters, List.Forall₂ DeadLetter.IsOf buried (s.releaseStuck pass).1.exhausted ∧
    letters.map DeadLetter.id = (answer.bind Outcome.record?).toList ∧
      after.deadLetters = s.deadLetters ++ (buried ++ letters) ∧
        ((buried ++ letters).map DeadLetter.id).Nodup ∧
          ∀ record ∈ buried ++ letters, ∀ other ∈ s.deadLetters, other.id ≠ record.id

theorem Treats.congr {result : HandlerResult} {s s' : Store} {old : Job} {claim now : Instant}
    {outcome : Outcome} {after : Store} (h : w.Treats result s old claim now outcome after)
    (same : s'.keys = s.keys) : w.Treats result s' old claim now outcome after :=
  { h with
    keys := by
      intro key other
      rw [h.keys key other, Store.holder?, Store.holder?, same] }

/-- What was written after the pass is what was written in all. -/
theorem records_of_draws {records letters : List DeadLetter} {t : Store} {m : Nat}
    (written : t.deadLetters =
      letters.foldl (fun kept record => Store.putDeadLetter record kept) (unstuck v s n).deadLetters)
    (same : records = v.burials (n + 4) (s.releaseStuck (v.around n).time).1.exhausted)
    (draws : v.Draws n m (records ++ letters)) (fresh : v.Fresh s m) :
    t.deadLetters = s.deadLetters ++ (records ++ letters) ∧
      ((records ++ letters).map DeadLetter.id).Nodup ∧
        ∀ record ∈ records ++ letters, ∀ other ∈ s.deadLetters, other.id ≠ record.id := by
  obtain ⟨distinct, new⟩ := draws.new fresh
  refine ⟨?_, distinct, new⟩
  rw [written, unstuck, Store.foldl_insertDeadLetter, ← same]
  show letters.foldl _ (records.foldl _ s.deadLetters) = _
  rw [← List.foldl_append, Store.foldl_putDeadLetter new distinct]

/-- An iteration ends, and answers what it leaves, with the times that it read. -/
def EndsInAgreement (w : Worker handler) (v : Scenery) (s : Store) : Prop :=
  ∃ answer b i j k, w.runOnce.run.atBench v (.opening s) = (.ok answer, b) ∧
    i < j ∧ j < k ∧ k < b.passed ∧
      w.Agrees (v.results 0) s (v.around i).time (v.around j).time (v.around k).time answer b.store

section Iteration

variable {w v s} {m : Nat} (later : 1 < m)
  (drawn : v.Draws 1 m (v.burials 5 (s.releaseStuck (v.around 1).time).1.exhausted))
  (fresh : v.Fresh s (w.runOnce.run.atBench v (.opening s)).2.passed)

include later drawn fresh

/-- An iteration that finds no job to claim. -/
theorem agrees_of_idle (unique : s.UniqueIds) (registers : s.Registers)
    (claims : w.claim.run.atBench v (.opening s) = (.ok none, ⟨unstuck v s 1, none, [], m + 3⟩))
    (nobody : ∀ job ∈ (unstuck v s 1).jobs, ¬job.isClaimable (v.around m).time) :
    w.EndsInAgreement v s := by
  have ended : w.runOnce.run.atBench v (.opening s) =
      (.ok none, ⟨unstuck v s 1, none, [], m + 4⟩) := by
    rw [runOnce, QueueProgram.atBench_bind_ok v claims]
    rfl
  rw [ended] at fresh
  -- no record is written after those of the pass
  have nothing : (unstuck v s 1).deadLetters = ([] : List DeadLetter).foldl
      (fun kept record => Store.putDeadLetter record kept) (unstuck v s 1).deadLetters := rfl
  have noLetter : v.Draws m (m + 4) [] := ⟨[], rfl, .nil, by simp⟩
  have drawn := drawn.append noLetter (Nat.le_of_lt later) (Nat.le_add_right m 4)
  obtain ⟨written, distinct, new⟩ := records_of_draws v s 1 nothing rfl drawn fresh
  rw [jobs_unstuck] at nobody
  refine ⟨none, ⟨unstuck v s 1, none, [], m + 4⟩, 1, m, m + 1, ended, later, Nat.lt_succ_self m,
    Nat.add_lt_add_left (by decide) m, ?_⟩
  exact
    { unstuck := Store.pass_releaseStuck unique registers _
      idle := iff_of_true rfl nobody
      treats := fun outcome h => by cases h
      others := fun id _ => find?_unstuck v s 1 id
      records := ⟨_, [], v.burials_isOf 5 _, rfl, written, distinct, new⟩ }

/-- An iteration that claims the job whose turn it is. -/
theorem agrees_of_claimed (unique : s.UniqueIds) (registers : s.Registers) {old : Job}
    (next : (unstuck v s 1).Next (v.around m).time old)
    (handed : (unstuck v s 1).claimNext w.id (v.around m).time =
      (some (Store.claimed old w.id (v.around m).time),
        (unstuck v s 1).put (Store.claimed old w.id (v.around m).time)))
    (claims : w.claim.run.atBench v (.opening s) =
      (.ok (some (Store.claimed old w.id (v.around m).time)),
        ⟨(unstuck v s 1).put (Store.claimed old w.id (v.around m).time), none, [], m + 3⟩)) :
    w.EndsInAgreement v s := by
  have registers' :
      ((unstuck v s 1).put (Store.claimed old w.id (v.around m).time)).Registers := by
    have claimed := Store.registers_perform (registers_unstuck v s 1 registers unique)
      (uniqueIds_unstuck v s 1 unique) (.claimNext w.id (v.around m).time)
    change ((unstuck v s 1).claimNext w.id (v.around m).time).2.Registers at claimed
    rwa [handed] at claimed
  have found := (unstuck v s 1).find?_put_self (Store.claimed old w.id (v.around m).time)
  obtain ⟨outcome, t, jobs, last, processed, closing⟩ :=
    process_ends w v [] (m + 3) found (by simp [Store.claimed, Job.isLockedBy])
  have ended : w.runOnce.run.atBench v (.opening s) =
      (.ok (some outcome), ⟨t, none, jobs, last⟩) := by
    rw [runOnce, QueueProgram.atBench_bind_ok v claims]
    dsimp only
    rw [map_eq_pure_bind, QueueProgram.atBench_bind_ok v processed]
    rfl
  rw [ended] at fresh
  obtain ⟨k, after, before, treats⟩ := closing.treats w v (m + 3) registers' found
  -- the record of the attempt is written behind those of the pass
  obtain ⟨letters, put, named, drawn'⟩ := closing.records
  have drawn := drawn.append (drawn'.mono fun k after before => ⟨by omega, before⟩)
    (Nat.le_of_lt later) (by omega)
  obtain ⟨written, distinct, new⟩ := records_of_draws v s 1 put rfl drawn fresh
  have claimable : ∃ job ∈ (s.releaseStuck (v.around 1).time).2.jobs,
      job.isClaimable (v.around m).time := ⟨old, jobs_unstuck v s 1 ▸ next.mem, next.claimable⟩
  refine ⟨some outcome, ⟨t, none, jobs, last⟩, 1, m, k, ended, later, by omega, before, ?_⟩
  exact
    { unstuck := Store.pass_releaseStuck unique registers _
      idle := iff_of_false (by simp) (by simpa using claimable)
      treats := by
        rintro _ ⟨⟩
        refine ⟨old, ⟨jobs_unstuck v s 1 ▸ next.mem, next.claimable, ?_⟩,
          treats.congr w (keys_unstuck v s 1).symm⟩
        rw [← jobs_unstuck]
        exact next.first
      others := by
        intro id other
        have differs : id ≠ (Store.claimed old w.id (v.around m).time).id := by
          intro same
          exact other outcome rfl (treats.names.trans same.symm)
        exact (closing.find?_eq differs).trans
          (((unstuck v s 1).find?_put_of_ne differs).trans (find?_unstuck v s 1 id))
      records := ⟨_, letters, v.burials_isOf 5 _, named, written, distinct, new⟩ }

end Iteration

/-- An iteration in a store whose identifiers are distinct and whose index has the keys of all
documents. -/
theorem agrees_of_registers (unique : s.UniqueIds) (registers : s.Registers)
    (fresh : v.Fresh s (w.runOnce.run.atBench v (.opening s)).2.passed) :
    w.EndsInAgreement v s := by
  obtain ⟨m, claims, later, inside⟩ := claim_ends w v s [] 0
  have drawn : v.Draws 1 m (v.burials 5 (s.releaseStuck (v.around 1).time).1.exhausted) := by
    refine (v.burials_draws 5 _).mono ?_
    intro k after before
    exact ⟨by omega, inside k (by omega) (by omega)⟩
  rcases (unstuck v s 1).claimNext_next w.id (v.around m).time with ⟨nobody, nothing⟩ |
    ⟨old, next, handed⟩
  · rw [nothing] at claims
    exact agrees_of_idle later drawn fresh unique registers claims nobody
  · rw [handed] at claims
    exact agrees_of_claimed later drawn fresh unique registers next handed claims

/-- **An iteration answers what it leaves.** Take the store after any calls (so after whatever
clients, workers and the dead-letter queue called), a worker with any handlers, and any way in which
they end. While the worker is alone and its calls do not fail, its next iteration ends, and it
answers with nothing exactly when no job can be claimed after its pass over expired locks. Otherwise
it treats the job whose turn it is, and the outcome is the one that its handler and its claims call
for, and the one that is stored. -/
theorem runOnce_agrees (calls : List Call) (w : Worker handler) (v : Scenery)
    (fresh : v.Fresh (Store.empty.after calls)
      (w.runOnce.run.atBench v (.opening (Store.empty.after calls))).2.passed) :
    ∃ answer b i j k,
      w.runOnce.run.atBench v (.opening (Store.empty.after calls)) = (.ok answer, b) ∧
        i < j ∧ j < k ∧ k < b.passed ∧
          w.Agrees (v.results 0) (Store.empty.after calls) (v.around i).time (v.around j).time
            (v.around k).time answer b.store :=
  agrees_of_registers w v _ (Store.uniqueIds_after Store.uniqueIds_empty calls)
    (Store.registers_after calls) fresh

/-! ### A depot

In the evening a worker of the depot takes back what the two carriers lost. The letter fails. The
parcel can be carried again if the depot has a carrier for parcels, who delivers it or panics.
-/

namespace Depot

/-- The evening, in which a carrier comes to this. -/
def scenery (result : HandlerResult) : Scenery where
  around k := ⟨Relay.evening, 0, .ofNat k, .ok .null, false, none⟩
  renewals _ := []
  results _ := result

/-- A carrier panics. -/
def panics : HandlerResult := .error (.panic none)

/-- A carrier delivers. -/
def delivers : HandlerResult := .ok (.bool true)

/-- A worker of the depot, which has a carrier for one type. -/
def worker (jobType : String) : Worker Unit := ⟨"c", .standard, ⟨[(jobType, ())]⟩⟩

theorem passed : ∀ jobType ∈ ["parcel", "letter"], ∀ result ∈ [panics, delivers],
    ((worker jobType).runOnce.run.atBench (scenery result)
      (.opening (Store.empty.after Store.Carriers.calls))).2.passed ≤ 40 := by
  decide +kernel

theorem fresh (result : HandlerResult) {n : Nat} (few : n ≤ 40) :
    (scenery result).Fresh (Store.empty.after Store.Carriers.calls) n where
  distinct := by
    have distinct : ∀ j < 40, ∀ k < 40, Uuid.ofNat j = Uuid.ofNat k → j = k := by
      decide +kernel
    intro j hj k hk
    exact distinct j (by omega) k (by omega)
  new := by
    intro record hrecord
    have none : (Store.empty.after Store.Carriers.calls).deadLetters = [] := by decide +kernel
    rw [none] at hrecord
    cases hrecord

/-- The parcel as the pass leaves it. -/
def parcel : Job :=
  { Store.Carriers.parcel with
    attempts := 1
    startedAt := some .epoch
    updatedAt := Relay.evening }

/-- Two seconds after the evening, when the delay before the second attempt is over. -/
def later : Instant := (Instant.ofMilliseconds? 122000).getD .epoch

theorem delay : Settings.standard.backoff.delayFor 2 = 2000 := by
  decide +kernel

theorem add_two_seconds : (Relay.evening.add? (2000 * 1000000)).getD .last = later := by
  decide +kernel

/-- It is the parcel's turn. -/
theorem turn_of_parcel :
    parcel ∈ ((Store.empty.after Store.Carriers.calls).releaseStuck Relay.evening).2.jobs ∧
    parcel.isClaimable Relay.evening ∧
    ∀ job ∈ ((Store.empty.after Store.Carriers.calls).releaseStuck Relay.evening).2.jobs,
      job.isClaimable Relay.evening → job = parcel := by
  decide +kernel

/-- An iteration of a worker at the depot treats the parcel. -/
theorem treats_parcel {w : Worker Unit} {result : HandlerResult} {answer : Option Outcome}
    {after : Store} (agrees : w.Agrees result (Store.empty.after Store.Carriers.calls)
      Relay.evening Relay.evening Relay.evening answer after) :
    ∃ outcome, answer = some outcome ∧ w.Treats result
      ((Store.empty.after Store.Carriers.calls).releaseStuck Relay.evening).2 parcel
      Relay.evening Relay.evening outcome after := by
  obtain ⟨mem, claimable, only⟩ := turn_of_parcel
  cases answer with
  | none => exact absurd claimable (agrees.idle.mp rfl parcel mem)
  | some outcome =>
    obtain ⟨old, next, treats⟩ := agrees.treats outcome rfl
    rw [only old next.mem next.claimable] at treats
    exact ⟨outcome, rfl, treats⟩

end Depot

/-- When a carrier for parcels panics, the parcel waits with its error until the delay is over. When
it delivers, the parcel has its value. Without a carrier the parcel fails, and there is a record of
it. -/
theorem runOnce_agrees_depot :
    (∃ b doc, (Depot.worker "parcel").runOnce.run.atBench (Depot.scenery Depot.panics)
        (.opening (Store.empty.after Store.Carriers.calls)) =
        (.ok (some (.retrying (.ofNat 1) 2 2000)), b) ∧
      b.store.find? (.ofNat 1) = some doc ∧ doc.status = .queued ∧ doc.attempts = 2 ∧
      doc.error = some ⟨"HANDLER_PANIC", "Job handler panicked", "handler panicked"⟩ ∧
      doc.availableAt = Depot.later ∧ doc.lockOwner = none) ∧
    (∃ b doc, (Depot.worker "parcel").runOnce.run.atBench (Depot.scenery Depot.delivers)
        (.opening (Store.empty.after Store.Carriers.calls)) =
        (.ok (some (.succeeded (.ofNat 1))), b) ∧
      b.store.find? (.ofNat 1) = some doc ∧ doc.status = .succeeded ∧ doc.attempts = 2 ∧
      doc.result = some (.bool true) ∧ doc.finishedAt = some Relay.evening ∧
      doc.lockOwner = none) ∧
    ∃ b letter, (Depot.worker "letter").runOnce.run.atBench (Depot.scenery Depot.panics)
        (.opening (Store.empty.after Store.Carriers.calls)) =
        (.ok (some (.failed (.ofNat 1) 2 (some letter.id))), b) ∧
      b.store.findDeadLetter? letter.id = some letter ∧ letter.jobType = "parcel" ∧
      letter.error = some ⟨"INVALID_JOB_TYPE", "Invalid job type",
        "no handler registered for job type 'parcel'"⟩ := by
  -- whoever works at the depot, the iteration ends and treats the parcel
  have treated (jobType : String) (known : jobType ∈ ["parcel", "letter"]) (result : HandlerResult)
      (ends : result ∈ [Depot.panics, Depot.delivers]) : ∃ outcome b,
      (Depot.worker jobType).runOnce.run.atBench (Depot.scenery result)
        (.opening (Store.empty.after Store.Carriers.calls)) = (.ok (some outcome), b) ∧
      (Depot.worker jobType).Treats result
        ((Store.empty.after Store.Carriers.calls).releaseStuck Relay.evening).2 Depot.parcel
        Relay.evening Relay.evening outcome b.store := by
    have fresh := Depot.fresh result (Depot.passed jobType known result ends)
    obtain ⟨answer, b, i, j, k, ended, -, -, -, agrees⟩ :=
      runOnce_agrees Store.Carriers.calls (Depot.worker jobType) (Depot.scenery result) fresh
    obtain ⟨outcome, rfl, treats⟩ := Depot.treats_parcel agrees
    exact ⟨outcome, b, ended, treats⟩
  refine ⟨?_, ?_, ?_⟩
  · obtain ⟨outcome, b, ended, treats⟩ := treated "parcel" (by simp) Depot.panics (by simp)
    obtain ⟨attempts, delay, rfl⟩ := treats.retrying.mpr ⟨rfl, rfl, by decide⟩
    obtain ⟨rfl, waits, error, failing, stored⟩ := treats.again attempts delay rfl
    rw [show delay = 2000 from waits.trans Depot.delay] at ended stored
    exact ⟨b, _, ended, stored, rfl, rfl, failing.symm, Depot.add_two_seconds, rfl⟩
  · obtain ⟨outcome, b, ended, treats⟩ := treated "parcel" (by simp) Depot.delivers (by simp)
    obtain rfl := treats.succeeded.mpr ⟨rfl, _, rfl⟩
    exact ⟨b, _, ended, treats.value _ rfl rfl, rfl, rfl, rfl, rfl, rfl⟩
  · obtain ⟨outcome, b, ended, treats⟩ := treated "letter" (by simp) Depot.panics (by simp)
    obtain ⟨attempts, record, rfl⟩ := treats.failed.mpr (.inl rfl)
    obtain ⟨rfl, -, doc, letter, -, rfl, -, rfl, made, found⟩ := treats.last attempts record rfl
    exact ⟨b, letter, ended, found, made.jobType, made.error⟩

end Worker

end JobQueue
