import JobQueue.Proofs.Sorting
import JobQueue.Proofs.Store.Run
import Mathlib.Algebra.Group.Nat.Defs
import Mathlib.Data.Prod.Lex

/-!
# The order of claims

Whoever claims at one time again and again is handed the jobs that can be claimed then, each of them
once, in the order of their turns: by rank, then by the time at which they became available, then by
the time of their creation, and last by identifier. The order in which a store holds its jobs makes
no difference.

* `Job.turn` is where a job stands, and `Store.claimedBefore_iff` says that claims go by it.
* `Store.queue`: the jobs that can be claimed, in the order of their turns. `Store.claimNext_cons`
  and `Store.claimNext_nil`: a claim takes the first one.
* `Store.claimsInTurn`: several claims at one time, and `Store.claims_in_turn`: what they hand out.
-/

namespace JobQueue

/-! ## Turns -/

namespace Instant

variable {t u : Instant}

/-- Where an instant stands among the others. -/
def key (t : Instant) : ℤ ×ₗ ℕ := toLex (t.second, t.nano)

theorem key_lt_key : t.key < u.key ↔ t < u := Prod.Lex.toLex_lt_toLex

theorem key_injective : Function.Injective key := by
  intro t u h
  obtain ⟨second, nano⟩ := Prod.mk.inj (toLex.injective h)
  cases t
  cases u
  cases second
  cases nano
  rfl

end Instant

/-- Where a job stands among those that could be claimed: by rank, by the time it became available,
by the time of its creation, by identifier. -/
def Job.turn (job : Job) : ℤ ×ₗ (ℤ ×ₗ ℕ) ×ₗ (ℤ ×ₗ ℕ) ×ₗ ℕ :=
  toLex (job.priority.toInt, toLex (job.availableAt.key, toLex (job.createdAt.key, job.id.toNat)))

theorem Priority.toInt_inj {p q : Priority} : p.toInt = q.toInt ↔ p = q := by
  rw [Priority.toInt, Priority.toInt, Int32.toInt_inj, Priority.mk.injEq]

/-- Jobs with different identifiers have different turns. -/
theorem Job.id_of_turn {a b : Job} (h : a.turn = b.turn) : a.id = b.id := by
  obtain ⟨-, h⟩ := Prod.mk.inj (toLex.injective h)
  obtain ⟨-, h⟩ := Prod.mk.inj (toLex.injective h)
  obtain ⟨-, h⟩ := Prod.mk.inj (toLex.injective h)
  have bits : a.id.bits = b.id.bits := BitVec.toNat_inj.mp h
  exact congrArg Uuid.mk bits

namespace Store

variable {s t : Store} {job : Job} {jobs : List Job} {worker : String} {now : Instant}

/-- Claims go by turns. -/
theorem claimedBefore_iff {a b : Job} : claimedBefore a b = true ↔ a.turn < b.turn := by
  simp only [claimedBefore, Job.turn, Prod.Lex.toLex_lt_toLex, Instant.key_lt_key,
    Instant.key_injective.eq_iff, Priority.toInt_inj, Bool.or_eq_true, Bool.and_eq_true,
    decide_eq_true_eq]

theorem firstOf_eq_none : firstOf jobs = none ↔ jobs = [] := by
  cases jobs <;> simp [firstOf]

/-- The first of some jobs is one with the first turn. -/
theorem turn_le_of_firstOf (h : firstOf jobs = some job) :
    ∀ other ∈ jobs, job.turn ≤ other.turn := by
  cases jobs with
  | nil => cases h
  | cons first rest =>
    rw [firstOf, Option.some.injEq] at h
    subst h
    induction rest generalizing first with
    | nil => simp
    | cons other rest ih =>
      rw [List.foldl_cons]
      generalize hbest : (if claimedBefore other first then other else first) = best
      have least : best.turn ≤ first.turn ∧ best.turn ≤ other.turn := by
        split at hbest <;> subst hbest
        next ahead => exact ⟨(claimedBefore_iff.mp ahead).le, le_rfl⟩
        next behind => exact ⟨le_rfl, not_lt.mp fun ahead => behind (claimedBefore_iff.mpr ahead)⟩
      obtain ⟨hbest, hrest⟩ := List.forall_mem_cons.mp (ih best)
      exact List.forall_mem_cons.mpr ⟨hbest.trans least.1,
        List.forall_mem_cons.mpr ⟨hbest.trans least.2, hrest⟩⟩

/-! ## The queue -/

/-- The jobs that can be claimed, in the order of their turns. -/
def queue (s : Store) (now : Instant) : List Job :=
  (s.jobs.filter fun job => job.isClaimable now).mergeSort fun a b => decide (a.turn ≤ b.turn)

theorem queue_perm (s : Store) (now : Instant) :
    (s.queue now).Perm (s.jobs.filter fun job => job.isClaimable now) := sortedBy_perm ..

theorem mem_queue : job ∈ s.queue now ↔ job ∈ s.jobs ∧ job.isClaimable now = true := by
  rw [(s.queue_perm now).mem_iff, List.mem_filter]

/-- Jobs of a store with one turn are the same. -/
theorem eq_of_turn (unique : s.UniqueIds) {a b : Job} (ha : a ∈ s.jobs) (hb : b ∈ s.jobs)
    (h : a.turn = b.turn) : a = b := List.inj_on_of_nodup_map unique ha hb (Job.id_of_turn h)

/-- No two jobs that can be claimed have the same turn. -/
theorem nodup_turns (unique : s.UniqueIds) (now : Instant) :
    ((s.jobs.filter fun job => job.isClaimable now).map Job.turn).Nodup := by
  have distinct : (s.jobs.filter fun job => job.isClaimable now).Nodup :=
    (List.Nodup.of_map _ unique).filter _
  refine distinct.map_on fun a ha b hb => ?_
  exact eq_of_turn unique (List.mem_of_mem_filter ha) (List.mem_of_mem_filter hb)

/-- The turns of the queue increase. -/
theorem queue_pairwise (unique : s.UniqueIds) (now : Instant) :
    (s.queue now).Pairwise fun a b => a.turn < b.turn := sortedBy_pairwise (nodup_turns unique now)

/-- There is only one order of turns. -/
theorem eq_queue (perm : jobs.Perm (s.jobs.filter fun job => job.isClaimable now))
    (sorted : jobs.Pairwise fun a b => a.turn < b.turn) : jobs = s.queue now :=
  eq_sortedBy perm sorted

/-- The order in which a store holds its jobs makes no difference. -/
theorem queue_eq_of_perm (unique : s.UniqueIds) (perm : t.jobs.Perm s.jobs) :
    t.queue now = s.queue now := sortedBy_eq_of_perm (nodup_turns unique now) (perm.filter _)

/-! ## One claim -/

theorem isClaimable_claimed (job : Job) (worker : String) (now later : Instant) :
    (claimed job worker now).isClaimable later = false := rfl

/-- The first job of the queue is the next one to be claimed. -/
theorem nextClaimable?_of_queue {rest : List Job} (unique : s.UniqueIds)
    (h : s.queue now = job :: rest) : s.nextClaimable? now = some job := by
  have head : job ∈ s.queue now := h ▸ List.mem_cons_self
  have some : s.jobs.filter (fun job => job.isClaimable now) ≠ [] :=
    List.ne_nil_of_mem (List.mem_filter.mpr (mem_queue.mp head))
  cases found : s.nextClaimable? now with
  | none => exact absurd (firstOf_eq_none.mp found) some
  | some first =>
    have first_le := turn_le_of_firstOf found job (List.mem_filter.mpr (mem_queue.mp head))
    have mem : first ∈ s.queue now := mem_queue.mpr (nextClaimable?_eq_some found)
    have le_first : job.turn ≤ first.turn := by
      have sorted := queue_pairwise unique now
      rw [h] at sorted mem
      rcases List.mem_cons.mp mem with rfl | mem
      · exact le_rfl
      · exact (List.rel_of_pairwise_cons sorted mem).le
    exact congrArg _ (eq_of_turn unique (mem_queue.mp mem).1 (mem_queue.mp head).1
      (le_antisymm first_le le_first))

/-- When nothing can be claimed, nothing happens. -/
theorem claimNext_nil (h : s.queue now = []) (worker : String) :
    s.claimNext worker now = (none, s) := by
  rcases s.claimNext_cases worker now with nothing | ⟨job, mem, claimable, -⟩
  · exact nothing
  · have : job ∈ s.queue now := mem_queue.mpr ⟨mem, claimable⟩
    rw [h] at this
    cases this

/-- A claim takes the first job of the queue, and leaves the others in it. -/
theorem claimNext_cons {rest : List Job} (unique : s.UniqueIds) (h : s.queue now = job :: rest)
    (worker : String) :
    (s.claimNext worker now).1 = some (claimed job worker now) ∧
      (s.claimNext worker now).2.queue now = rest := by
  obtain ⟨mem, claimable⟩ := mem_queue.mp (h ▸ List.mem_cons_self : job ∈ s.queue now)
  rw [claimNext, nextClaimable?_of_queue unique h]
  refine ⟨rfl, ?_⟩
  obtain ⟨others, before, after⟩ := putBy_perm unique mem (claimed_id job worker now)
  have sorted := queue_pairwise unique now
  have left := (s.queue_perm now).trans (before.filter fun job => job.isClaimable now)
  have after := after.filter fun job => job.isClaimable now
  rw [h] at sorted left
  simp only [List.filter_cons, claimable, if_true, List.perm_cons] at left
  -- the job that was claimed cannot be claimed again
  simp only [List.filter_cons, isClaimable_claimed, Bool.false_eq_true, if_false] at after
  have unique : ({ s with jobs := putJob (claimed job worker now) s.jobs } : Store).UniqueIds :=
    nodup_putJob unique
  exact (eq_queue (left.trans after.symm) sorted.of_cons).symm

/-! ## Several claims at one time -/

/-- Workers claim one after the other: what they are handed, and the store then. -/
def claimsInTurn (now : Instant) : Store → List String → List (Option Job) × Store
  | s, [] => ([], s)
  | s, worker :: workers =>
    let (job, s) := s.claimNext worker now
    let (jobs, s) := claimsInTurn now s workers
    (job :: jobs, s)

/-- What workers are handed that claim the jobs of a queue. -/
def handed (queue : List Job) (workers : List String) (now : Instant) : List (Option Job) :=
  List.zipWith (fun job worker => some (claimed job worker now)) queue workers ++
    List.replicate (workers.length - queue.length) none

theorem claimsInTurn_eq (unique : s.UniqueIds) (now : Instant) (workers : List String) :
    (claimsInTurn now s workers).1 = handed (s.queue now) workers now ∧
      (claimsInTurn now s workers).2.UniqueIds ∧
      (claimsInTurn now s workers).2.queue now = (s.queue now).drop workers.length := by
  induction workers generalizing s with
  | nil => exact ⟨by simp [claimsInTurn, handed], unique, rfl⟩
  | cons worker workers ih =>
    cases h : s.queue now with
    | nil =>
      obtain ⟨answers, unique, left⟩ := ih unique
      rw [h] at answers left
      rw [claimsInTurn, claimNext_nil h]
      refine ⟨?_, unique, left.trans (by simp)⟩
      dsimp only
      rw [answers]
      simp [handed, List.replicate_succ]
    | cons job rest =>
      obtain ⟨first, others⟩ := claimNext_cons unique h worker
      have unique : (s.claimNext worker now).2.UniqueIds :=
        uniqueIds_perform unique (.claimNext worker now)
      obtain ⟨answers, unique, left⟩ := ih unique
      refine ⟨?_, unique, left.trans ?_⟩
      · show (s.claimNext worker now).1 ::
          (claimsInTurn now (s.claimNext worker now).2 workers).1 = _
        rw [first, answers, others]
        simp [handed]
      · rw [others, List.length_cons, List.drop_succ_cons]

/-! ## What a claim changes -/

/-- A job is handed out, and its document is changed: nothing else, and of the document no more than
its status, its lock, the time of its start if it had none, its attempts, and the time of its last
change. -/
structure HandsOut (s : Store) (old new : Job) (after : Store) : Prop where
  found : s.find? old.id = some old
  stored : after.find? old.id = some new
  others : ∀ id, id ≠ old.id → after.find? id = s.find? id
  keys : after.keys = s.keys
  deadLetters : after.deadLetters = s.deadLetters
  same : old =
    { new with
      status := old.status
      lockOwner := old.lockOwner
      lockedAt := old.lockedAt
      lastHeartbeatAt := old.lastHeartbeatAt
      startedAt := old.startedAt
      attempts := old.attempts
      updatedAt := old.updatedAt }
  started : ∀ time, old.startedAt = some time → new.startedAt = some time
  attempts : new.attempts.toNat = old.attempts.toNat + 1

/-- How a claim ends: it changes nothing, or hands out one job. -/
inductive ClaimEnds (s : Store) : Option Job → Store → Prop
  | nothing : ClaimEnds s none s
  | job {old new : Job} {after : Store} (handsOut : s.HandsOut old new after) :
      ClaimEnds s (some new) after

/-- The jobs that can be claimed can be counted once more. -/
def Spare (s : Store) (now : Instant) : Prop :=
  ∀ job ∈ s.queue now, job.attempts.toNat + 1 < 2 ^ 32

theorem claimEnds_claimNext (unique : s.UniqueIds) (spare : s.Spare now) (worker : String) :
    s.ClaimEnds (s.claimNext worker now).1 (s.claimNext worker now).2 := by
  rcases s.claimNext_cases worker now with nothing | ⟨old, mem, claimable, handed⟩
  · rw [nothing]
    exact .nothing
  · rw [handed]
    have few := spare old (mem_queue.mpr ⟨mem, claimable⟩)
    refine .job ⟨find?_of_mem unique mem, ?_, fun id hne => ?_, rfl, rfl, rfl, ?_, ?_⟩
    · rw [find?_put, claimed_id, if_pos rfl]
    · rw [find?_put, claimed_id, if_neg hne.symm]
    · intro time began
      simp [claimed, began]
    · show (old.attempts + 1).toNat = _
      rw [UInt32.toNat_add, Nat.mod_eq_of_lt]
      · rfl
      · exact few

/-! ## Every reachable store -/

/-- **Claims in turn.** Take the store after any calls, with no job whose attempts are at their
limit, and any time. The jobs that can be claimed then have one order in which their turns increase.
Whoever claims at that time, one call after the other, is handed these jobs in this order, each of
them once, and nothing from then on; and this does not depend on the order in which the store holds
its jobs. Each of the calls changes no more than the document that it hands out. -/
theorem claims_in_turn (calls : List Call) (now : Instant)
    (spare : ∀ job ∈ (empty.after calls).jobs, job.attempts.toNat ≠ 2 ^ 32 - 1) :
    ∃ order : List Job,
      order.Perm ((empty.after calls).jobs.filter fun job => job.isClaimable now) ∧
      (order.map Job.turn).Pairwise (· < ·) ∧
      ∀ t : Store, t.jobs.Perm (empty.after calls).jobs → ∀ workers : List String,
        (claimsInTurn now t workers).1 = handed order workers now ∧
        ∀ worker, (claimsInTurn now t workers).2.ClaimEnds
          ((claimsInTurn now t workers).2.claimNext worker now).1
          ((claimsInTurn now t workers).2.claimNext worker now).2 := by
  have unique : (empty.after calls).UniqueIds := uniqueIds_after uniqueIds_empty calls
  refine ⟨(empty.after calls).queue now, queue_perm _ now,
    List.pairwise_map.mpr (queue_pairwise unique now), fun t perm workers => ?_⟩
  have unique' : t.UniqueIds := (perm.map Job.id).nodup_iff.mpr unique
  obtain ⟨answers, later, left⟩ := claimsInTurn_eq unique' now workers
  rw [queue_eq_of_perm unique perm] at answers left
  refine ⟨answers, claimEnds_claimNext later fun job mem => ?_⟩
  -- what is left in the queue was there before
  rw [left] at mem
  have := spare job (mem_queue.mp (List.mem_of_mem_drop mem)).1
  have := job.attempts.toNat_lt
  omega

/-! ### Three letters

A letter is put in, another one that is urgent, and a third one whose time has not come.
-/

namespace Tray

def letter : Job := .queued (.ofNat 1) "mail" .null .epoch

def urgent : Job := { Job.queued (.ofNat 2) "mail" .null .epoch with priority := .high }

def postponed : Job := { Job.queued (.ofNat 3) "mail" .null .epoch with availableAt := .last }

def calls : List Call := [.insert letter, .insert urgent, .insert postponed]

end Tray

theorem claims_in_turn_tray :
    ∃ order : List Job, order.Perm [Tray.letter, Tray.urgent] ∧
      (order.map Job.turn).Pairwise (· < ·) ∧ ∀ workers,
        (claimsInTurn .epoch (empty.after Tray.calls) workers).1 = handed order workers .epoch := by
  obtain ⟨order, perm, sorted, claims⟩ := claims_in_turn Tray.calls .epoch (by decide)
  exact ⟨order, perm, sorted, fun workers => (claims _ (.refl _) workers).1⟩

/-- The urgent letter goes first. -/
example : (claimsInTurn .epoch (empty.after Tray.calls) ["a", "b", "c"]).1.map (·.map Job.id) =
    [some (.ofNat 2), some (.ofNat 1), none] := by decide

end Store

end JobQueue
