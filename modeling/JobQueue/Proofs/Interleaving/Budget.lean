import JobQueue.Proofs.Interleaving.Failures

/-!
# The attempts of a job

Neither a claim nor a retry looks at the attempts that a job has left. That none is handed out too
often rests on the workers: whether a failed job is tried again is decided on the document of the
claim, and the document in the store still has its attempts when the retry is accepted.

* `claimCount`: how often a job was handed out.
* `Ledger.Budgeted`: the attempts of every document are the times that it was handed out, they are
  never more than its maximum, and a queued one has some left.
* `System.attempts_budget`: this holds in every state that a queue can reach from an empty store,
  and a job that failed with attempts left had no handler.
-/

namespace JobQueue

variable {handler ι κ : Type}

/-! ## Claims of a history -/

/-- The job that was handed out. -/
def Occurrence.claimed? : Occurrence ι κ → Option Job
  | .called _ c before => c.claimed? (before.perform c).1
  | _ => none

/-- How often a job was handed out. -/
def claimCount (h : List (Occurrence ι κ)) (id : Uuid) : Nat :=
  (h.filterMap Occurrence.claimed?).countP fun job => job.id = id

/-- How often a job is handed out by what happens next. -/
theorem claimCount_append (h : List (Occurrence ι κ)) (e : Occurrence ι κ) (id : Uuid) :
    claimCount (h ++ [e]) id =
      claimCount h id + e.claimed?.toList.countP fun job => job.id = id := by
  rw [claimCount, List.filterMap_append, List.countP_append]
  cases he : e.claimed? <;> simp [claimCount, he]

/-! ## Budgets -/

/-- A document whose attempts are so many claims, and no more than its maximum. -/
structure Job.InBudget (job : Job) (claims : Nat) : Prop where
  counted : job.attempts.toNat = claims
  within : job.attempts ≤ job.maxAttempts
  queued : job.status = .queued → job.attempts < job.maxAttempts

theorem Job.IsNew.inBudget {job : Job} (h : job.IsNew) : job.InBudget 0 where
  counted := by simp [h.unclaimed]
  within := by simp [h.unclaimed]
  queued _ := h.unclaimed ▸ h.claimable

/-- A claim counts one attempt, and does not overflow. -/
theorem Job.InBudget.claimed {job : Job} {n : Nat} (h : job.InBudget n)
    (queued : job.status = .queued) (worker : String) (now : Instant) :
    (Store.claimed job worker now).InBudget (n + 1) := by
  have hlt : job.attempts.toNat < job.maxAttempts.toNat :=
    UInt32.lt_iff_toNat_lt.mp (h.queued queued)
  have hmax := job.maxAttempts.toNat_lt
  have hcount : (job.attempts + 1).toNat = job.attempts.toNat + 1 := by
    rw [UInt32.toNat_add]
    simp only [UInt32.toNat_one]
    omega
  refine ⟨hcount.trans (by rw [h.counted]), ?_, fun hprocessing => by cases hprocessing⟩
  have hle : (job.attempts + 1).toNat ≤ job.maxAttempts.toNat := by omega
  exact UInt32.le_iff_toNat_le.mpr hle

/-- What becomes of a document otherwise changes neither its attempts nor their maximum. It stays in
its budget when it is not queued again without attempts. -/
theorem Job.InBudget.congr {job after : Job} {n : Nat} (h : job.InBudget n)
    (attempts : after.attempts = job.attempts) (maxAttempts : after.maxAttempts = job.maxAttempts)
    (queued : after.status = .queued → job.attempts < job.maxAttempts) : after.InBudget n where
  counted := by rw [attempts, h.counted]
  within := by
    rw [attempts, maxAttempts]
    exact h.within
  queued hqueued := by
    rw [attempts, maxAttempts]
    exact queued hqueued

namespace Ledger

variable {crew : ι → Worker handler} {l m : Ledger ι κ}

/-- Every document is in its budget, and no job was handed out that is not there. -/
structure Budgeted (l : Ledger ι κ) : Prop where
  jobs : ∀ id job, l.store.find? id = some job → job.InBudget (claimCount l.history id)
  absent : ∀ id, l.store.find? id = none → claimCount l.history id = 0

theorem budgeted_opening : (opening .empty : Ledger ι κ).Budgeted where
  jobs id job h := by cases h
  absent _ _ := rfl

theorem Budgeted.congr (budget : l.Budgeted) (hstore : m.store = l.store)
    (hcount : ∀ id, claimCount m.history id = claimCount l.history id) : m.Budgeted where
  jobs id job h := by
    rw [hcount]
    exact budget.jobs id job (hstore ▸ h)
  absent id h := by
    rw [hcount]
    exact budget.absent id (hstore ▸ h)

/-- A claim keeps the budgets. -/
theorem Budgeted.claimed (budget : l.Budgeted) (unique : l.store.UniqueIds) (a : Actor ι κ)
    (worker : String) (now : Instant) : (l.called a (.claimNext worker now)).Budgeted := by
  have hcount (id : Uuid) :
      claimCount (l.called a (.claimNext worker now)).history id = claimCount l.history id +
        ((l.store.claimNext worker now).1.toList.countP fun job => job.id = id) :=
    claimCount_append _ _ id
  have hstore : (l.called a (.claimNext worker now)).store = (l.store.claimNext worker now).2 := rfl
  rcases l.store.claimNext_cases worker now with hnone | ⟨job, hmem, hclaim, hsome⟩
  · refine budget.congr (by rw [hstore, hnone]) fun id => ?_
    rw [hcount, hnone]
    rfl
  · have hfind (id : Uuid) : (l.called a (.claimNext worker now)).store.find? id =
        if job.id = id then some (Store.claimed job worker now) else l.store.find? id := by
      rw [hstore, hsome, Store.find?_put]
      rfl
    have hqueued := Job.status_of_isClaimable hclaim
    have hcount (id : Uuid) : claimCount (l.called a (.claimNext worker now)).history id =
        claimCount l.history id + if job.id = id then 1 else 0 := by
      rw [hcount, hsome]
      by_cases heq : job.id = id <;> simp [heq]
    refine ⟨fun id doc hdoc => ?_, fun id habsent => ?_⟩
    · rw [hfind] at hdoc
      rw [hcount]
      split at hdoc
      next heq =>
        cases hdoc
        subst heq
        rw [if_pos rfl]
        exact (budget.jobs job.id job (Store.find?_of_mem unique hmem)).claimed hqueued worker now
      next hne =>
        rw [if_neg hne]
        exact budget.jobs id doc hdoc
    · rw [hfind] at habsent
      rw [hcount]
      split at habsent
      next => cases habsent
      next hne =>
        rw [if_neg hne]
        exact budget.absent id habsent

variable [DecidableEq ι] [DecidableEq κ]

/-- A worker retries a job only while the document that it holds has attempts left. -/
theorem InCustody.left_of_retry (custody : l.InCustody crew) {a : Actor ι κ} {id : Uuid}
    {worker : String} {error : Failure} {availableAt now : Instant}
    (permitted : a.permits crew (phase l.history a) (.markRetry id worker error availableAt now))
    {doc : Job} (found : l.store.find? id = some doc) (held : doc.isLockedBy worker) :
    doc.attempts < doc.maxAttempts := by
  cases a with
  | worker i =>
    obtain ⟨rfl, job, treating, rfl, left⟩ := permitted
    obtain ⟨between, hbetween⟩ := custody i job treating
    obtain ⟨lockedAt, beat, updatedAt, rfl⟩ := hbetween.renewal doc found held
    exact left
  | _ => exact permitted.elim

/-- A worker fails a job only when the document that it holds has no attempts left, or for want of a
handler. -/
theorem InCustody.spent_of_fail (custody : l.InCustody crew) {a : Actor ι κ} {id : Uuid}
    {worker : String} {error : Failure} {now : Instant}
    (permitted : a.permits crew (phase l.history a) (.markFailed id worker error now))
    {doc : Job} (found : l.store.find? id = some doc) (held : doc.isLockedBy worker) :
    ∃ i, a = .worker i ∧ worker = (crew i).id ∧
      ((crew i).registry.find? doc.jobType = none ∨ doc.maxAttempts ≤ doc.attempts) := by
  cases a with
  | worker i =>
    obtain ⟨rfl, job, treating, rfl, spent⟩ := permitted
    obtain ⟨between, hbetween⟩ := custody i job treating
    obtain ⟨lockedAt, beat, updatedAt, rfl⟩ := hbetween.renewal doc found held
    exact ⟨i, rfl, rfl, spent⟩
  | _ => exact permitted.elim

/-- Every other call keeps the budgets, too. -/
theorem Budgeted.called (budget : l.Budgeted) (fresh : l.Fresh) (custody : l.InCustody crew)
    {a : Actor ι κ} {c : Call} (permitted : a.permits crew (phase l.history a) c)
    (notClaim : ∀ worker now, c ≠ .claimNext worker now) : (l.called a c).Budgeted := by
  have hclaimed : c.claimed? (l.store.perform c).1 = none := by
    cases c with
    | claimNext worker now => exact absurd rfl (notClaim worker now)
    | _ => rfl
  have hcount (id : Uuid) : claimCount (l.called a c).history id = claimCount l.history id := by
    rw [history_called, claimCount_append]
    show _ + (c.claimed? (l.store.perform c).1).toList.countP _ = _
    rw [hclaimed]
    rfl
  refine ⟨fun id job hjob => ?_, fun id habsent => ?_⟩
  · have change := Store.change_perform fresh.unique c id
    rw [show (l.store.perform c).2.find? id = some job from hjob] at change
    rw [hcount]
    generalize hold : l.store.find? id = old at change
    cases change with
    | kept => exact budget.jobs id job hold
    | inserted =>
      have hid : job.id = id := Store.id_of_find? hjob
      have habsent := fresh.new_of_insert permitted
      rw [hid] at habsent
      rw [budget.absent id habsent]
      exact (Actor.drawn_of_insert permitted).2.inBudget
    | claimed worker => exact absurd rfl (notClaim worker _)
    | @renewed job _ now held =>
      have hprocessing := (Job.isLockedBy_iff.mp held).1
      refine (budget.jobs id job hold).congr rfl rfl fun hqueued => ?_
      rw [show (Store.renewed job now).status = job.status from rfl, hprocessing] at hqueued
      cases hqueued
    | @succeeded job => exact (budget.jobs id job hold).congr rfl rfl fun h => by cases h
    | @retried job worker error availableAt now held =>
      have hid : job.id = id := Store.id_of_find? hold
      refine (budget.jobs id job hold).congr rfl rfl fun _ => ?_
      exact custody.left_of_retry permitted (hid ▸ hold) held
    | @failed job => exact (budget.jobs id job hold).congr rfl rfl fun h => by cases h
    | @requeued job now expired spared =>
      refine (budget.jobs id job hold).congr rfl rfl fun _ => ?_
      simpa [Job.hasAttemptsRemaining] using spared
    | @exhausted job => exact (budget.jobs id job hold).congr rfl rfl fun h => by cases h
  · rw [hcount]
    refine budget.absent id ?_
    cases hbefore : l.store.find? id with
    | none => rfl
    | some job =>
      obtain ⟨after, hafter⟩ := Store.find?_perform_some (c := c) fresh.unique hbefore
      rw [show (l.store.perform c).2.find? id = none from habsent] at hafter
      cases hafter

theorem Budgeted.step (budget : l.Budgeted) (fresh : l.Fresh) (custody : l.InCustody crew)
    (h : Step crew l m) : m.Budgeted := by
  cases h with
  | @called a c permitted =>
    by_cases hclaim : ∃ worker now, c = .claimNext worker now
    · obtain ⟨worker, now, rfl⟩ := hclaim
      exact budget.claimed fresh.unique a worker now
    · exact budget.called fresh custody permitted fun worker now h => hclaim ⟨worker, now, h⟩
  | drew | ended => exact budget.congr rfl fun id => claimCount_append _ _ id

/-- Every document stays in its budget along every course. -/
theorem Course.budgeted (distinct : Function.Injective fun i => (crew i).id) (h : Course crew l m)
    (fresh : l.Fresh) (custody : l.InCustody crew) (budget : l.Budgeted) : m.Budgeted := by
  induction h with
  | refl => exact budget
  | tail hcourse hstep ih =>
    have custody' := Course.inCustody distinct hcourse fresh custody
    exact ih.step (Course.fresh hcourse fresh) custody' hstep

theorem Reached.budgeted (distinct : Function.Injective fun i => (crew i).id)
    (h : Reached crew l) : l.Budgeted :=
  Course.budgeted distinct h (fresh_opening Store.uniqueIds_empty) (inCustody_opening crew .empty)
    budgeted_opening

/-! ## How a job fails -/

/-- A job fails with all its attempts used up, or because its worker has no handler for it. -/
theorem Budgeted.spent_of_failed (budget : l.Budgeted) (unique : l.store.UniqueIds)
    (custody : l.InCustody crew) {a : Actor ι κ} {c : Call}
    (permitted : a.permits crew (phase l.history a) c) {job : Job}
    (hjob : job ∈ c.failed (l.store.perform c).1) :
    job.attempts = job.maxAttempts ∨
      ∃ i error now, a = .worker i ∧ c = .markFailed job.id (crew i).id error now ∧
        (crew i).registry.find? job.jobType = none := by
  cases c with
  | markFailed id worker error now =>
    obtain ⟨old, hfind, held, rfl, -⟩ := Store.markFailed_eq_some (Option.mem_toList.mp hjob)
    obtain ⟨i, rfl, rfl, hnone | hspent⟩ := custody.spent_of_fail permitted hfind held
    · exact .inr ⟨i, error, now, rfl, by rw [← Store.id_of_find? hfind]; rfl, hnone⟩
    · exact .inl (UInt32.le_antisymm (budget.jobs id old hfind).within hspent)
  | releaseStuck now =>
    obtain ⟨old, hmem, -, hspent, rfl⟩ := Store.mem_exhausted_iff.mp hjob
    have hwithin := (budget.jobs old.id old (Store.find?_of_mem unique hmem)).within
    simp only [Job.hasAttemptsRemaining, decide_eq_false_iff_not, UInt32.not_lt] at hspent
    exact .inl (UInt32.le_antisymm hwithin hspent)
  | _ => cases hjob

end Ledger

/-! ## Every reachable state -/

variable [DecidableEq ι] [DecidableEq κ]

/-- **The budget of attempts.** In every state that any number of workers and clients reach from an
empty store, in whatever order they make their calls:
no document has more attempts than its maximum, a queued one has some left, and the attempts are the
times that the job was handed out; no job was handed out more often than its maximum says, and no
count of attempts ever overflowed; whatever call failed a job, the attempts of the job were used up,
or it was the call of a worker that has no handler for the job; and every failed job of the store
was failed by such a call. -/
theorem System.attempts_budget {crew : ι → Worker handler}
    (distinct : Function.Injective fun i => (crew i).id) {moves : List (Move ι κ)}
    {s : System handler ι κ} (run : (System.opening .empty).run crew moves = some s) :
    (∀ job ∈ s.store.jobs, job.attempts ≤ job.maxAttempts ∧
      (job.status = .queued → job.attempts < job.maxAttempts) ∧
      job.attempts.toNat = claimCount s.history job.id) ∧
    (∀ id, claimCount s.history id ≤
      ((s.store.find? id).map fun job => job.maxAttempts.toNat).getD 0) ∧
    (∀ earlier actor worker now before later job,
      s.history = earlier ++ .called actor (.claimNext worker now) before :: later →
      (before.claimNext worker now).1 = some job →
      ∃ old, before.find? job.id = some old ∧ job.attempts.toNat = old.attempts.toNat + 1) ∧
    (∀ earlier actor c before later job,
      s.history = earlier ++ .called actor c before :: later →
      job ∈ c.failed (before.perform c).1 →
      job.attempts = job.maxAttempts ∨
        ∃ i error now, actor = .worker i ∧ c = .markFailed job.id (crew i).id error now ∧
          (crew i).registry.find? job.jobType = none) ∧
    (∀ job ∈ s.store.jobs, job.status = .failed →
      ∃ earlier actor c before later,
        s.history = earlier ++ .called actor c before :: later ∧
        job ∈ c.failed (before.perform c).1) := by
  have reached : Ledger.Reached crew s.toLedger := System.run_course run
  have fresh := reached.fresh
  have budget := reached.budgeted distinct
  refine ⟨fun job hjob => ?_, fun id => ?_, ?_, ?_, fun job hjob hfailed => ?_⟩
  · have hbudget := budget.jobs job.id job (Store.find?_of_mem fresh.unique hjob)
    exact ⟨hbudget.within, hbudget.queued, hbudget.counted⟩
  · cases hfind : s.store.find? id with
    | none =>
      rw [budget.absent id hfind]
      exact Nat.zero_le _
    | some job =>
      have hbudget := budget.jobs id job hfind
      rw [← hbudget.counted]
      exact UInt32.le_iff_toNat_le.mp hbudget.within
  · intro earlier actor worker now before later job happened hclaim
    obtain ⟨m, hm, -, rfl, -, -⟩ := Ledger.Course.of_called reached happened
    have hm : Ledger.Reached crew m := hm
    obtain ⟨-, -, old, hmem, hclaimable, rfl⟩ := Store.claimNext_eq_some hclaim
    have hfind := Store.find?_of_mem hm.fresh.unique hmem
    have hold := (hm.budgeted distinct).jobs old.id old hfind
    refine ⟨old, hfind, ?_⟩
    rw [(hold.claimed (Job.status_of_isClaimable hclaimable) worker now).counted, hold.counted]
  · intro earlier actor c before later job happened hjob
    obtain ⟨m, hm, rfl, rfl, permitted, -⟩ := Ledger.Course.of_called reached happened
    have hm : Ledger.Reached crew m := hm
    exact (hm.budgeted distinct).spent_of_failed hm.fresh.unique (hm.inCustody distinct) permitted
      hjob
  · have hmem := (reached.recorded.mem_iff job).mpr
      ⟨Store.find?_of_mem fresh.unique hjob, hfailed⟩
    obtain ⟨e, he, hjob⟩ := List.mem_flatMap.mp hmem
    obtain ⟨earlier, later, happened⟩ := List.append_of_mem he
    cases e with
    | called actor c before => exact ⟨earlier, actor, c, before, later, happened, hjob⟩
    | drew => cases hjob
    | ended => cases hjob

/-- The job that was taken from one worker by another one was handed out twice, as often as its
document says, and as it may be. -/
theorem System.attempts_budget_late :
    ∃ job ∈ LateWorker.final.store.jobs, job.attempts = 2 ∧ job.maxAttempts = 2 ∧
      claimCount LateWorker.final.history job.id = 2 := by
  obtain ⟨job, hjob, hattempts, hmax⟩ : ∃ job ∈ LateWorker.final.store.jobs,
      job.attempts = 2 ∧ job.maxAttempts = 2 := ⟨_, List.mem_cons_self, rfl, rfl⟩
  obtain ⟨-, -, hcounted⟩ :=
    (System.attempts_budget LateWorker.crew_distinct LateWorker.run_eq).1 job hjob
  refine ⟨job, hjob, hattempts, hmax, ?_⟩
  rw [← hcounted, hattempts]
  rfl

end JobQueue
