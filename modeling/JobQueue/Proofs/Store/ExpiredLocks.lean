import JobQueue.Proofs.Store.Replacement
import JobQueue.Proofs.Time.Forward
import Mathlib.Data.List.Perm.Basic

/-!
# A pass over expired locks

A pass takes up the jobs whose locks ran out, one after the other, and ends each of their attempts:
a job that may be attempted again is queued, and the others fail and give their keys back.

* `Store.Pass`: what a pass is to do, to every job, every key and every record, and
  `Store.pass_releaseStuck`: so it does.
* `Store.releaseInOrder`: the pass as a loop over the jobs in some order, and
  `Store.releaseInOrder_eq`: no order makes a difference but to the order of the jobs that failed.
* `Store.takes_expired_locks`: both of them after any calls.
-/

namespace JobQueue

/-! ## Locks and time -/

/-- A lock that ran out stays so. -/
theorem Job.lockExpired_mono {job : Job} {t now : Instant} (h : job.lockExpired t) (le : t ≤ now) :
    job.lockExpired now := by
  obtain ⟨going, time, deadline, locked, ends, past⟩ := lockExpired_iff.mp h
  refine lockExpired_iff.mpr ⟨going, time, deadline, locked, ends, ?_⟩
  exact Instant.lt_of_lt_of_le past le

namespace Store

variable {s t : Store} {job : Job} {id : Uuid} {key : String} {now : Instant}

/-! ## What a pass is to do -/

/-- A pass over expired locks: the jobs that it took up, and the rest of the store. -/
structure Pass (s : Store) (now : Instant) (release : StuckRelease) (after : Store) : Prop where
  /-- A job that may be attempted again is queued without its lock. -/
  spared : ∀ job ∈ s.jobs, job.lockExpired now → job.attempts < job.maxAttempts →
    after.find? job.id = some
      { job with
        status := .queued
        lockOwner := none
        lockedAt := none
        lastHeartbeatAt := none
        updatedAt := now }
  /-- Another one fails, and its error names the owner of its lock. -/
  spent : ∀ job ∈ s.jobs, job.lockExpired now → job.maxAttempts ≤ job.attempts →
    after.find? job.id = some
      { job with
        status := .failed
        error := some ⟨"VISIBILITY_TIMEOUT", "Visibility timeout expired",
          "lock held by " ++ job.lockOwner.getD "unknown worker" ++
            " expired on the final attempt"⟩
        finishedAt := some now
        lockOwner := none
        lockedAt := none
        lastHeartbeatAt := none
        idempotencyKey := none
        updatedAt := now }
  /-- No other document changes, and none is new. -/
  others : ∀ id, (∀ job, s.find? id = some job → ¬job.lockExpired now) →
    after.find? id = s.find? id
  /-- The keys of the jobs that fail are free. -/
  freed : ∀ job ∈ s.jobs, job.lockExpired now → job.maxAttempts ≤ job.attempts →
    ∀ key, job.idempotencyKey = some key → after.holder? key = none
  /-- No other key changes hands. -/
  kept : ∀ key, (∀ job ∈ s.jobs, job.lockExpired now → job.maxAttempts ≤ job.attempts →
    job.idempotencyKey ≠ some key) → after.holder? key = s.holder? key
  deadLetters : after.deadLetters = s.deadLetters
  /-- The jobs that were queued are counted. -/
  requeued : release.requeued = .ofNat (s.jobs.countP fun job =>
    job.lockExpired now && decide (job.attempts < job.maxAttempts))
  /-- The jobs that failed are reported, each of them once, as they are stored. -/
  once : (release.exhausted.map Job.id).Nodup
  exhausted : ∀ doc, doc ∈ release.exhausted ↔ ∃ job ∈ s.jobs, job.lockExpired now ∧
    job.maxAttempts ≤ job.attempts ∧ after.find? job.id = some doc
  /-- No lock is left that ran out before. -/
  none_left : ∀ t ≤ now, ∀ job ∈ after.jobs, ¬job.lockExpired t
  /-- So another pass finds nothing to do. -/
  again : ∀ t ≤ now, after.releaseStuck t = (⟨0, []⟩, after)

/-! ## What the pass does -/

theorem hasAttemptsRemaining_eq_true : job.hasAttemptsRemaining = true ↔
    job.attempts < job.maxAttempts := decide_eq_true_iff

theorem hasAttemptsRemaining_eq_false : job.hasAttemptsRemaining = false ↔
    job.maxAttempts ≤ job.attempts := by
  rw [Job.hasAttemptsRemaining, decide_eq_false_iff_not, UInt32.not_lt]

theorem released_of_unexpired (h : ¬job.lockExpired now) : released job now = job := by
  rw [released, if_neg h]

/-- A job that was taken up has no lock that could run out. -/
theorem not_lockExpired_released (job : Job) {t now : Instant} (le : t ≤ now) :
    ¬(released job now).lockExpired t := by
  intro expired
  by_cases before : job.lockExpired now
  · have going := Job.status_of_lockExpired expired
    rw [released, if_pos before] at going
    split at going <;> cases going
  · rw [released_of_unexpired before] at expired
    exact before (Job.lockExpired_mono expired le)

/-- The index after a pass. -/
theorem keys_releaseStuck (s : Store) (now : Instant) :
    (s.releaseStuck now).2.keys =
      (s.jobs.filter fun job => job.lockExpired now && !job.hasAttemptsRemaining).foldl releaseKey
        s.keys := by
  simp only [releaseStuck, List.partition_eq_filter_filter, List.filter_filter]
  congr 2
  funext job
  exact Bool.and_comm _ _

theorem mem_keys_releaseStuck {e : String × Uuid} : e ∈ (s.releaseStuck now).2.keys ↔
    e ∈ s.keys ∧ ∀ job ∈ s.jobs, job.lockExpired now → job.maxAttempts ≤ job.attempts →
      ¬(job.idempotencyKey = some e.1 ∧ job.id = e.2) := by
  rw [keys_releaseStuck, mem_foldl_releaseKey]
  refine and_congr_right fun _ => forall_congr' fun job => ?_
  rw [List.mem_filter, Bool.and_eq_true, Bool.not_eq_true', hasAttemptsRemaining_eq_false]
  tauto

/-- A pass that finds no expired lock does nothing. -/
theorem releaseStuck_of_unexpired (none : ∀ job ∈ s.jobs, ¬job.lockExpired now) :
    s.releaseStuck now = (⟨0, []⟩, s) := by
  have nobody : (s.jobs.filter fun job => job.lockExpired now) = [] :=
    List.filter_eq_nil_iff.mpr none
  have same : (s.jobs.map fun job => released job now) = s.jobs := by
    rw [List.map_congr_left fun job mem => released_of_unexpired (none job mem), List.map_id'']
    intro job
    rfl
  simp only [releaseStuck, nobody, same]
  rfl

/-- **A pass does what it is to do**, in every store whose identifiers are distinct and whose index
has the keys of all documents. -/
theorem pass_releaseStuck (unique : s.UniqueIds) (registers : s.Registers) (now : Instant) :
    s.Pass now (s.releaseStuck now).1 (s.releaseStuck now).2 := by
  have later : (s.releaseStuck now).2.Registers := registers_releaseStuck registers unique now
  have taken {job : Job} (mem : job ∈ s.jobs) :
      (s.releaseStuck now).2.find? job.id = some (released job now) := by
    rw [find?_releaseStuck, find?_of_mem unique mem, Option.map_some]
  have failed {job : Job} (mem : job ∈ s.jobs) (expired : job.lockExpired now)
      (spent : job.maxAttempts ≤ job.attempts) :
      (s.releaseStuck now).2.find? job.id = some (exhausted job now) := by
    rw [taken mem, released, if_pos expired, hasAttemptsRemaining_eq_false.mpr spent]
    rfl
  have none_left (t : Instant) (le : t ≤ now) :
      ∀ job ∈ (s.releaseStuck now).2.jobs, ¬job.lockExpired t := by
    intro doc mem
    obtain ⟨job, -, rfl⟩ := List.mem_map.mp mem
    exact not_lockExpired_released job le
  constructor
  case spared =>
    intro job mem expired left
    rw [taken mem, released, if_pos expired, hasAttemptsRemaining_eq_true.mpr left]
    rfl
  case spent =>
    intro job mem expired spent
    exact failed mem expired spent
  case others =>
    intro id unexpired
    rw [find?_releaseStuck]
    cases found : s.find? id with
    | none => rfl
    | some job => rw [Option.map_some, released_of_unexpired (unexpired job found)]
  case freed =>
    intro job mem expired spent key carries
    have own : (key, job.id) ∈ s.keys := by
      apply registers.lists
      rw [keyOf?, find?_of_mem unique mem]
      exact carries
    refine holder?_eq_none_of_gone registers.distinct ?_ own ?_
    · intro e entry
      exact (mem_keys_releaseStuck.mp entry).1
    · intro entry
      exact (mem_keys_releaseStuck.mp entry).2 job mem expired spent ⟨carries, rfl⟩
  case kept =>
    intro key others
    refine holder?_eq_of_kept registers.distinct later.distinct ?_
    intro id
    rw [mem_keys_releaseStuck, and_iff_left_iff_imp]
    intro _ job mem expired spent gone
    exact others job mem expired spent gone.1
  case deadLetters => rfl
  case requeued => exact requeued_releaseStuck s now
  case once =>
    rw [exhausted_releaseStuck, List.map_map]
    exact (unique.sublist (List.filter_sublist.map _))
  case exhausted =>
    intro doc
    rw [mem_exhausted_iff]
    refine exists_congr fun job => and_congr_right fun mem => and_congr_right fun expired => ?_
    rw [hasAttemptsRemaining_eq_false]
    refine and_congr_right fun spent => ?_
    rw [failed mem expired spent, Option.some.injEq, eq_comm]
  case none_left => exact none_left
  case again =>
    intro t le
    exact releaseStuck_of_unexpired (none_left t le)

/-! ## The pass as a loop -/

/-- One turn of the loop: the job with an identifier is taken up. -/
def takeUp (now : Instant) (progress : StuckRelease × Store) (id : Uuid) : StuckRelease × Store :=
  let (release, s) := progress
  match s.find? id with
  | none => (release, s)
  | some job =>
    if job.hasAttemptsRemaining then
      ({ release with requeued := release.requeued + 1 },
        { s with jobs := putJob (requeued job now) s.jobs })
    else
      ({ release with exhausted := release.exhausted ++ [exhausted job now] },
        { s with
          jobs := putJob (exhausted job now) s.jobs
          keys := releaseKey s.keys job })

/-- The pass over jobs with some identifiers, one after the other. -/
def releaseInOrder (s : Store) (now : Instant) (order : List Uuid) : StuckRelease × Store :=
  order.foldl (takeUp now) (⟨0, []⟩, s)

/-- A job when a pass has taken some jobs up. -/
def releasedAmong (done : List Job) (now : Instant) (job : Job) : Job :=
  if job ∈ done then released job now else job

@[simp] theorem releasedAmong_id (done : List Job) (now : Instant) (job : Job) :
    (releasedAmong done now job).id = job.id := by
  unfold releasedAmong
  split
  · exact released_id job now
  · rfl

/-- How far a pass is when it has taken some jobs up. -/
def takenUp (s : Store) (now : Instant) (done : List Job) : StuckRelease × Store :=
  let spent := done.filter fun job => !job.hasAttemptsRemaining
  ({ requeued := .ofNat (done.countP Job.hasAttemptsRemaining)
     exhausted := spent.map fun job => exhausted job now },
    { s with
      jobs := s.jobs.map (releasedAmong done now)
      keys := spent.foldl releaseKey s.keys })

theorem takenUp_nil (s : Store) (now : Instant) : s.takenUp now [] = (⟨0, []⟩, s) := by
  have nobody : releasedAmong [] now = id := by
    funext job
    exact if_neg List.not_mem_nil
  simp [takenUp, nobody]

/-- Putting a job in is a change of the one document that has its identifier. -/
theorem putJob_eq_map {jobs : List Job} {old new : Job} (unique : (jobs.map Job.id).Nodup)
    (mem : old ∈ jobs) (same : old.id = new.id) :
    putJob new jobs = jobs.map fun other => if other.id = new.id then new else other := by
  induction jobs with
  | nil => cases mem
  | cons first rest ih =>
    rw [List.map_cons, List.nodup_cons] at unique
    rw [putJob_cons, List.map_cons]
    by_cases here : first.id = new.id
    · have others : ∀ other ∈ rest, (if other.id = new.id then new else other) = other := by
        intro other hother
        refine if_neg fun heq => unique.1 ?_
        rw [here, ← heq]
        exact List.mem_map_of_mem hother
      rw [if_pos here, if_pos here, List.map_congr_left others, List.map_id']
    · have inRest : old ∈ rest :=
        (List.mem_cons.mp mem).resolve_left fun heq => here (heq ▸ same)
      rw [if_neg here, if_neg here, ih unique.2 inRest]

/-- **One turn of the loop** takes up one job more. -/
theorem takeUp_takenUp (unique : s.UniqueIds) {done : List Job} (mem : job ∈ s.jobs)
    (expired : job.lockExpired now) (new : job ∉ done) :
    takeUp now (s.takenUp now done) job.id = s.takenUp now (done ++ [job]) := by
  have untouched : releasedAmong done now job = job := if_neg new
  have found : (s.takenUp now done).2.find? job.id = some job := by
    show (s.jobs.map (releasedAmong done now)).find? _ = _
    rw [find?_map _ (releasedAmong_id done now)]
    show (s.find? job.id).map _ = _
    rw [find?_of_mem unique mem, Option.map_some, untouched]
  have put : putJob (released job now) (s.jobs.map (releasedAmong done now)) =
      s.jobs.map (releasedAmong (done ++ [job]) now) := by
    have ids : (s.jobs.map (releasedAmong done now)).map Job.id = s.jobs.map Job.id := by
      rw [List.map_map]
      exact List.map_congr_left fun other _ => releasedAmong_id done now other
    rw [putJob_eq_map (ids ▸ unique) (List.mem_map_of_mem mem) (by simp), List.map_map]
    refine List.map_congr_left fun other hother => ?_
    rw [Function.comp_apply, releasedAmong_id, released_id]
    by_cases same : other.id = job.id
    · have heq : other = job := List.inj_on_of_nodup_map unique hother mem same
      rw [if_pos same, heq, releasedAmong, if_pos (by simp)]
    · have differs : other ≠ job := fun heq => same (heq ▸ rfl)
      rw [if_neg same]
      simp [releasedAmong, differs]
  unfold takeUp
  dsimp only
  rw [found]
  cases left : job.hasAttemptsRemaining with
  | true =>
    have queued : released job now = requeued job now := by
      rw [released, if_pos expired, if_pos left]
    rw [queued] at put
    dsimp only
    rw [if_pos left]
    simp [takenUp, put, left, UInt64.ofNat_add]
  | false =>
    have failed : released job now = exhausted job now := by
      rw [released, if_pos expired, left]
      rfl
    rw [failed] at put
    dsimp only
    rw [if_neg (Bool.eq_false_iff.mp left)]
    simp [takenUp, put, left]

/-- The loop over some jobs whose locks ran out, behind others that were taken up. -/
theorem foldl_takeUp (unique : s.UniqueIds) (done order : List Job)
    (mem : ∀ job ∈ order, job ∈ s.jobs ∧ job.lockExpired now) (distinct : (done ++ order).Nodup) :
    (order.map Job.id).foldl (takeUp now) (s.takenUp now done) = s.takenUp now (done ++ order) := by
  induction order generalizing done with
  | nil => rw [List.append_nil, List.map_nil, List.foldl_nil]
  | cons job order ih =>
    obtain ⟨⟨hjob, expired⟩, rest⟩ := List.forall_mem_cons.mp mem
    have new : job ∉ done := by
      intro again
      exact (List.nodup_append.mp distinct).2.2 job again job List.mem_cons_self rfl
    rw [List.append_cons done job order] at distinct ⊢
    rw [List.map_cons, List.foldl_cons, takeUp_takenUp unique hjob expired new]
    exact ih (done ++ [job]) rest distinct

/-- **The loop** over the jobs whose locks ran out, in whatever order. -/
theorem releaseInOrder_eq (unique : s.UniqueIds) {order : List Job}
    (perm : order.Perm (s.jobs.filter fun job => job.lockExpired now)) :
    s.releaseInOrder now (order.map Job.id) = s.takenUp now order := by
  have distinct : order.Nodup :=
    perm.nodup_iff.mpr ((List.Nodup.of_map Job.id unique).filter _)
  rw [releaseInOrder, ← takenUp_nil s now]
  refine foldl_takeUp unique [] order ?_ distinct
  intro job hjob
  exact List.mem_filter.mp (perm.mem_iff.mp hjob)

/-! ## The order makes no difference -/

/-- The same jobs, keys and records, in whatever order. -/
structure Rearranges (t s : Store) : Prop where
  jobs : t.jobs.Perm s.jobs
  keys : t.keys.Perm s.keys
  deadLetters : t.deadLetters.Perm s.deadLetters

/-- Keys can be given back in any order. -/
theorem releaseKey_comm (keys : List (String × Uuid)) (a b : Job) :
    releaseKey (releaseKey keys a) b = releaseKey (releaseKey keys b) a := by
  unfold releaseKey
  cases a.idempotencyKey with
  | none => rfl
  | some key =>
    cases b.idempotencyKey with
    | none => rfl
    | some other =>
      dsimp only
      rw [List.filter_filter, List.filter_filter]
      congr 1
      funext e
      exact Bool.and_comm _ _

theorem releaseKey_perm {keys others : List (String × Uuid)} (h : keys.Perm others) (job : Job) :
    (releaseKey keys job).Perm (releaseKey others job) := by
  unfold releaseKey
  split
  · exact h
  · exact h.filter _

theorem foldl_releaseKey_perm {keys others : List (String × Uuid)} {jobs more : List Job}
    (h : keys.Perm others) (same : jobs.Perm more) :
    (jobs.foldl releaseKey keys).Perm (more.foldl releaseKey others) := by
  have comm : RightCommutative releaseKey := ⟨releaseKey_comm⟩
  rw [same.foldl_eq]
  clear same
  induction more generalizing keys others with
  | nil => exact h
  | cons job more ih => exact ih (releaseKey_perm h job)

/-- Those of the jobs taken up that have no attempts left. -/
theorem spent_perm {order : List Job}
    (perm : order.Perm (s.jobs.filter fun job => job.lockExpired now)) :
    (order.filter fun job => !job.hasAttemptsRemaining).Perm
      (s.jobs.filter fun job => job.lockExpired now && !job.hasAttemptsRemaining) := by
  refine (perm.filter _).trans ?_
  rw [List.filter_filter]
  refine List.Perm.of_eq (List.filter_congr ?_)
  intro job _
  exact Bool.and_comm _ _

/-- What is counted and reported of a pass depends on which jobs were taken up. -/
theorem releases_takenUp {order : List Job}
    (perm : order.Perm (s.jobs.filter fun job => job.lockExpired now)) :
    (s.takenUp now order).1.requeued = (s.releaseStuck now).1.requeued ∧
      (s.takenUp now order).1.exhausted.Perm (s.releaseStuck now).1.exhausted := by
  constructor
  · show UInt64.ofNat _ = _
    rw [requeued_releaseStuck, perm.countP_eq, List.countP_filter]
    congr 3
    funext job
    exact Bool.and_comm _ _
  · show (List.map _ _).Perm _
    rw [exhausted_releaseStuck]
    exact (spent_perm perm).map _

/-- The jobs that are taken up are all whose locks ran out. -/
theorem takenUp_rearranges {order : List Job}
    (perm : order.Perm (s.jobs.filter fun job => job.lockExpired now)) :
    (s.takenUp now order).2.Rearranges (s.releaseStuck now).2 where
  jobs := by
    refine List.Perm.of_eq (List.map_congr_left ?_)
    intro job mem
    unfold releasedAmong
    split
    · rfl
    · rename_i left
      have unexpired : ¬job.lockExpired now := by
        intro expired
        exact left (perm.mem_iff.mpr (List.mem_filter.mpr ⟨mem, expired⟩))
      exact (released_of_unexpired unexpired).symm
  keys := by
    rw [keys_releaseStuck]
    exact foldl_releaseKey_perm (.refl _) (spent_perm perm)
  deadLetters := .refl _

/-- A pass over a store that is rearranged. -/
theorem Rearranges.releaseStuck (h : t.Rearranges s) (now : Instant) :
    (t.releaseStuck now).2.Rearranges (s.releaseStuck now).2 where
  jobs := h.jobs.map _
  keys := by
    rw [keys_releaseStuck, keys_releaseStuck]
    exact foldl_releaseKey_perm h.keys (h.jobs.filter _)
  deadLetters := h.deadLetters

theorem Rearranges.releases (h : t.Rearranges s) (now : Instant) :
    (t.releaseStuck now).1.requeued = (s.releaseStuck now).1.requeued ∧
      (t.releaseStuck now).1.exhausted.Perm (s.releaseStuck now).1.exhausted := by
  constructor
  · rw [requeued_releaseStuck, requeued_releaseStuck, h.jobs.countP_eq]
  · rw [exhausted_releaseStuck, exhausted_releaseStuck]
    exact (h.jobs.filter _).map _

/-! ## Every reachable store -/

/-- **A pass over expired locks.** Take the store after any calls, and any time. A pass takes up
every job whose lock has run out then, once, and does to it what is to be done; every other
document, every other key and all records stay as they are, and no lock is left that ran out at this
time or before. In whatever order a store holds what it holds, and the pass takes the jobs up, it
leaves the same jobs, keys and records, and it answers the same but for the order of the jobs that
failed. -/
theorem takes_expired_locks (calls : List Call) (now : Instant) :
    (empty.after calls).Pass now ((empty.after calls).releaseStuck now).1
        ((empty.after calls).releaseStuck now).2 ∧
      ∀ t : Store, t.Rearranges (empty.after calls) →
        ∀ order : List Job, order.Perm (t.jobs.filter fun job => job.lockExpired now) →
          (t.releaseInOrder now (order.map Job.id)).1.requeued =
              ((empty.after calls).releaseStuck now).1.requeued ∧
            (t.releaseInOrder now (order.map Job.id)).1.exhausted.Perm
              ((empty.after calls).releaseStuck now).1.exhausted ∧
            (t.releaseInOrder now (order.map Job.id)).2.Rearranges
              ((empty.after calls).releaseStuck now).2 := by
  have unique : (empty.after calls).UniqueIds := uniqueIds_after uniqueIds_empty calls
  refine ⟨pass_releaseStuck unique (registers_after calls) now, ?_⟩
  intro t same order perm
  have unique' : t.UniqueIds := (same.jobs.map Job.id).nodup_iff.mpr unique
  rw [releaseInOrder_eq unique' perm]
  obtain ⟨counted, reported⟩ := releases_takenUp perm
  obtain ⟨counted', reported'⟩ := same.releases now
  have left := takenUp_rearranges perm
  have left' := same.releaseStuck now
  refine ⟨counted.trans counted', reported.trans reported', ?_⟩
  exact ⟨left.jobs.trans left'.jobs, left.keys.trans left'.keys,
    left.deadLetters.trans left'.deadLetters⟩

/-! ### Two carriers

A parcel may be carried three times, and a letter once. Each has a carrier who does not come back.
-/

namespace Carriers

def parcel : Job := { Job.queued (.ofNat 1) "parcel" .null .epoch with maxAttempts := 3 }

def letter : Job :=
  { Job.queued (.ofNat 2) "letter" .null .epoch with
    maxAttempts := 1
    idempotencyKey := some "k" }

def calls : List Call :=
  [.insert parcel, .insert letter, .claimNext "a" .epoch, .claimNext "b" .epoch]

/-- The letter with its carrier. -/
def carried : Job := claimed letter "b" .epoch

theorem carried_mem : carried ∈ (empty.after calls).jobs := by decide

theorem late : carried.lockExpired Relay.evening := by decide

/-- The parcel with its carrier. -/
def underWay : Job := claimed parcel "a" .epoch

theorem underWay_mem : underWay ∈ (empty.after calls).jobs := by decide

theorem underWay_late : underWay.lockExpired Relay.evening := by decide

end Carriers

/-- In the evening the parcel waits for its second carrier; the letter fails by the lock of its only
one, and its key is free. The other order makes no difference, and another pass finds nothing. -/
theorem takes_expired_locks_carriers :
    ((empty.after Carriers.calls).releaseStuck Relay.evening).2.find? (.ofNat 1) =
        some { Carriers.parcel with
          attempts := 1
          startedAt := some .epoch
          updatedAt := Relay.evening } ∧
      ((empty.after Carriers.calls).releaseStuck Relay.evening).2.find? (.ofNat 2) =
        some { Carriers.letter with
          status := .failed
          attempts := 1
          error := some ⟨"VISIBILITY_TIMEOUT", "Visibility timeout expired",
            "lock held by b expired on the final attempt"⟩
          idempotencyKey := none
          startedAt := some .epoch
          finishedAt := some Relay.evening
          updatedAt := Relay.evening } ∧
      ((empty.after Carriers.calls).releaseStuck Relay.evening).2.holder? "k" = none ∧
      (((empty.after Carriers.calls).releaseStuck Relay.evening).2.releaseStuck Relay.evening).1 =
        ⟨0, []⟩ ∧
      ((empty.after Carriers.calls).releaseInOrder Relay.evening [.ofNat 2, .ofNat 1]).1.requeued =
        ((empty.after Carriers.calls).releaseStuck Relay.evening).1.requeued := by
  obtain ⟨pass, inOrder⟩ := takes_expired_locks Carriers.calls Relay.evening
  refine ⟨?_, ?_, ?_, ?_, ?_⟩
  · exact pass.spared _ Carriers.underWay_mem Carriers.underWay_late (by decide)
  · exact pass.spent _ Carriers.carried_mem Carriers.late (by decide)
  · exact pass.freed _ Carriers.carried_mem Carriers.late (by decide) "k" rfl
  · rw [pass.again _ (by decide)]
  · have order := inOrder (empty.after Carriers.calls) ⟨.refl _, .refl _, .refl _⟩
      ((empty.after Carriers.calls).jobs.filter fun job => job.lockExpired Relay.evening).reverse
      (List.reverse_perm _)
    exact order.1

end Store

end JobQueue
