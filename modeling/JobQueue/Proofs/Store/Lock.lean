import JobQueue.Proofs.Store.Run
import Mathlib.Data.List.Chain

/-!
# One lock at a time

A claim hands a job to a worker, and it is given back when the worker ends the attempt or when its
lock is taken away. Along every run, in which anybody may call anything at any time, this goes back
and forth: no job is ever handed out twice without having been given back in between.

* `Store.Entry.claimant?`, `Entry.releases` and `Entry.closes`: what an entry of the log did to the
  lock of a job.
* `Store.Standing`: whether a job waits, is held, or is at its end, and `Entry.Moves`: how an entry
  changes this. `Store.moves` says that there is no other way.
* `Store.Outstanding`: a worker claimed a job that was not given back since.
* `Store.lock_discipline`: claims and releases of a job alternate; a call of an owner is accepted
  exactly while a claim of this worker is outstanding; and nothing is claimed after its end.
-/

namespace JobQueue

/-! ## The calls of an owner -/

/-- The job and the worker of a call that only the owner of a lock may make. -/
def Call.owner? : Call → Option (Uuid × String)
  | .heartbeat id worker _ => some (id, worker)
  | c => c.ends?

/-- Whether a call of an owner was accepted. -/
def Call.grants : (c : Call) → Except QueueError c.Answer → Bool
  | .heartbeat _ _ _, .ok accepted => accepted
  | c, answer => c.accepts answer

/-- A call of an owner renews the lock, or ends the attempt. -/
theorem Call.owner?_cases {c : Call} {id : Uuid} {worker : String}
    (own : c.owner? = some (id, worker)) :
    (∃ now, c = .heartbeat id worker now) ∨
      (c.ends? = some (id, worker) ∧ ∀ answer, c.grants answer = c.accepts answer) := by
  cases c with
  | heartbeat target owner now =>
    cases own
    exact .inl ⟨now, rfl⟩
  | _ => exact .inr ⟨own, fun _ => rfl⟩

/-- Where a job stands. -/
inductive Standing where
  /-- It is not there yet, or it is queued. -/
  | waiting
  /-- It is being processed, by its owner. -/
  | held (owner : Option String)
  /-- It succeeded or failed. -/
  | over

/-- Where a document stands. -/
def Job.standing (job : Job) : Standing :=
  match job.status with
  | .queued => .waiting
  | .processing => .held job.lockOwner
  | .succeeded | .failed => .over

namespace Store

/-- Where a job stands in a store. -/
def standing (s : Store) (id : Uuid) : Standing := ((s.find? id).map Job.standing).getD .waiting

variable {s : Store} {c : Call} {id : Uuid} {worker : String}

theorem standing_of_find? {job : Job} (found : s.find? id = some job) :
    s.standing id = job.standing := by
  rw [standing, found]
  rfl

theorem standing_congr {t : Store} (same : t.find? id = s.find? id) :
    t.standing id = s.standing id := by
  rw [standing, same, standing]

theorem standing_eq_held_iff :
    s.standing id = .held (some worker) ↔ ∃ job, s.find? id = some job ∧ job.isLockedBy worker := by
  unfold standing
  cases s.find? id with
  | none => simp
  | some job =>
    cases hstatus : job.status <;> simp [Job.standing, Job.isLockedBy, hstatus]

/-- A call of an owner is accepted exactly when its worker holds the job. -/
theorem grants_iff (own : c.owner? = some (id, worker)) :
    c.grants (s.perform c).1 = true ↔ s.standing id = .held (some worker) := by
  rw [standing_eq_held_iff]
  rcases Call.owner?_cases own with ⟨now, rfl⟩ | ⟨ends, hgrants⟩
  · show (s.updateLocked id worker fun job => renewed job now).1 = true ↔ _
    simp only [updateLocked, ← lockedBy?_eq_some_iff]
    cases s.lockedBy? id worker <;> simp
  · rw [hgrants]
    exact accepts_iff ends

/-! ## What an entry does to a lock -/

/-- The job is being processed. -/
def isProcessing (s : Store) (id : Uuid) : Bool :=
  (s.find? id).any fun job => job.status = .processing

namespace Entry

/-- The worker that a call handed a job to. -/
def claimant? (e : Entry) (id : Uuid) : Option String :=
  match e.call with
  | .claimNext worker _ => if e.handsOut id then some worker else none
  | _ => none

/-- Whether a call gave a job back: its worker ended the attempt, or a pass over expired locks took
the lock away. -/
def releases (e : Entry) (id : Uuid) : Bool :=
  match e.call with
  | .releaseStuck _ => e.before.isProcessing id && !e.after.isProcessing id
  | c => (c.ends?.any fun target => target.1 = id) && c.accepts (e.before.perform c).1

/-- Whether a call gave a job back for good: it succeeded, or it failed. -/
def closes (e : Entry) (id : Uuid) : Bool :=
  match e.call with
  | .markSucceeded _ _ _ _ | .markFailed _ _ _ _ => e.releases id
  | .releaseStuck now => (e.before.releaseStuck now).1.exhausted.any fun job => job.id = id
  | _ => false

end Entry

namespace Entry

variable {e : Entry}

/-- How an entry moves the standing of a job. -/
inductive Moves (e : Entry) (id : Uuid) : Standing → Standing → Prop where
  | claimed {worker : String} (claims : e.claimant? id = some worker)
      (still : e.releases id = false) (going : e.closes id = false) :
      Moves e id .waiting (.held (some worker))
  | released {owner : Option String} (unclaimed : e.claimant? id = none)
      (gives : e.releases id = true) (going : e.closes id = false) :
      Moves e id (.held owner) .waiting
  | closed {owner : Option String} (unclaimed : e.claimant? id = none)
      (gives : e.releases id = true) (ends : e.closes id = true) :
      Moves e id (.held owner) .over
  | kept {standing : Standing} (unclaimed : e.claimant? id = none)
      (still : e.releases id = false) (going : e.closes id = false) :
      Moves e id standing standing

/-- An entry that does nothing to a lock leaves the job where it stands. -/
theorem Moves.of_same {s t : Standing} (unclaimed : e.claimant? id = none)
    (still : e.releases id = false) (going : e.closes id = false) (same : t = s) :
    e.Moves id s t := by
  rw [same]
  exact .kept unclaimed still going

/-- Only a job that waits is claimed. -/
theorem Moves.waiting_of_claim {s t : Standing} (moves : e.Moves id s t)
    (claims : e.claimant? id = some worker) : s = .waiting := by
  cases moves with
  | claimed => rfl
  | released unclaimed | closed unclaimed | kept unclaimed =>
    rw [claims] at unclaimed
    cases unclaimed

end Entry

/-- A claim hands out a job that waited. -/
theorem moves_claimNext (unique : s.UniqueIds) (worker : String) (now : Instant) (id : Uuid) :
    Entry.Moves ⟨.claimNext worker now, s⟩ id (s.standing id)
      ((s.claimNext worker now).2.standing id) := by
  rcases claimNext_at unique worker now id with ⟨job, hold, hclaim, hanswer, hafter⟩ | ⟨hother, hafter⟩
  · rw [standing_of_find? hold, standing_of_find? hafter]
    have hwaits : job.standing = .waiting := by
      rw [Job.standing, Job.status_of_isClaimable hclaim]
    rw [hwaits]
    refine .claimed ?_ rfl rfl
    have handed : Entry.handsOut ⟨.claimNext worker now, s⟩ id = true := by
      show ((s.claimNext worker now).1).any _ = true
      simp [hanswer, id_of_find? hold]
    exact if_pos handed
  · refine .of_same ?_ rfl rfl (standing_congr hafter)
    have kept : Entry.handsOut ⟨.claimNext worker now, s⟩ id = false := by
      show ((s.claimNext worker now).1).any _ = false
      cases hanswer : (s.claimNext worker now).1 with
      | none => rfl
      | some job => simpa using hother job hanswer
    exact if_neg (by simp [kept])

/-- A renewal leaves the job where it stands. -/
theorem moves_heartbeat (s : Store) (target : Uuid) (worker : String) (now : Instant) (id : Uuid) :
    Entry.Moves ⟨.heartbeat target worker now, s⟩ id (s.standing id)
      ((s.heartbeat target worker now).2.standing id) := by
  refine .of_same rfl rfl rfl ?_
  have hid (job : Job) : (renewed job now).id = job.id := rfl
  rcases s.updateLocked_at target worker hid id with ⟨job, -, hold, -, -, hafter⟩ | ⟨-, hafter⟩
  · rw [standing_of_find? hold]
    show (s.heartbeat target worker now).2.standing id = (renewed job now).standing
    exact standing_of_find? hafter
  · exact standing_congr hafter

/-- What the end of an attempt does to the job under one identifier. -/
def Entry.EndsAs (e : Entry) (id : Uuid) (worker : String) : Prop :=
  (e.releases id = true ∧ e.before.standing id = .held (some worker) ∧
      e.after.standing id = if e.closes id then .over else .waiting) ∨
    (e.releases id = false ∧ e.closes id = false ∧ e.after.find? id = e.before.find? id)

/-- The end of an attempt is settled by whether it was accepted, whether it is for good, and what it
did to the document. -/
theorem Entry.endsAs_of {e : Entry} (target : Uuid) (accepted final : Bool)
    (gives : e.releases id = (target = id && accepted))
    (closes : e.closes id = (final && e.releases id))
    (cases : (∃ job after, target = id ∧ e.before.find? id = some job ∧ job.isLockedBy worker ∧
        accepted = true ∧ e.after.find? id = some after ∧
        after.standing = if final then .over else .waiting) ∨
      ((accepted = true → target ≠ id) ∧ e.after.find? id = e.before.find? id)) :
    e.EndsAs id worker := by
  rcases cases with ⟨job, after, rfl, hold, locked, rfl, hafter, hstanding⟩ | ⟨hother, hafter⟩
  · have released : e.releases target = true := by simp [gives]
    refine .inl ⟨released, standing_eq_held_iff.mpr ⟨job, hold, locked⟩, ?_⟩
    rw [standing_of_find? hafter, hstanding, closes, released, Bool.and_true]
  · have kept : e.releases id = false := by
      rw [gives, ← Bool.not_eq_true, Bool.and_eq_true, decide_eq_true_eq]
      exact fun h => hother h.2 h.1
    exact .inr ⟨kept, by rw [closes, kept, Bool.and_false], hafter⟩

/-- An accepted end of an attempt gives back the job that its worker holds, for good unless it is to
be tried again. Any other one leaves the document of the job alone. -/
theorem endsAs_of_ends {e : Entry} {target : Uuid} (ends : e.call.ends? = some (target, worker))
    (id : Uuid) : e.EndsAs id worker := by
  obtain ⟨c, s⟩ := e
  cases c <;> simp only [Call.ends?, Option.some.injEq, Prod.mk.injEq, reduceCtorEq] at ends
  case markSucceeded target worker result now =>
    obtain ⟨rfl, rfl⟩ := ends
    have hid (job : Job) : (succeeded job result now).id = job.id := rfl
    refine Entry.endsAs_of target (s.markSucceeded target worker result now).1 true rfl
      (Bool.true_and _).symm ?_
    refine (s.updateLocked_at target worker hid id).imp_left ?_
    rintro ⟨job, htarget, hold, locked, hanswer, hafter⟩
    exact ⟨job, _, htarget, hold, locked, hanswer, hafter, rfl⟩
  case markRetry target worker error availableAt now =>
    obtain ⟨rfl, rfl⟩ := ends
    have hid (job : Job) : (retried job error availableAt now).id = job.id := rfl
    refine Entry.endsAs_of target (s.markRetry target worker error availableAt now).1 false rfl
      (Bool.false_and _).symm ?_
    refine (s.updateLocked_at target worker hid id).imp_left ?_
    rintro ⟨job, htarget, hold, locked, hanswer, hafter⟩
    exact ⟨job, _, htarget, hold, locked, hanswer, hafter, rfl⟩
  case markFailed target worker error now =>
    obtain ⟨rfl, rfl⟩ := ends
    refine Entry.endsAs_of target (s.markFailed target worker error now).1.isSome true rfl
      (Bool.true_and _).symm ?_
    refine (s.markFailed_at target worker error now id).imp_left ?_
    rintro ⟨job, htarget, hold, locked, hanswer, hafter⟩
    exact ⟨job, _, htarget, hold, locked, by rw [hanswer, Option.isSome_some], hafter, rfl⟩

/-- The end of an attempt moves the job as it says. -/
theorem moves_of_ends {e : Entry} {target : Uuid} (ends : e.call.ends? = some (target, worker))
    (id : Uuid) : e.Moves id (e.before.standing id) (e.after.standing id) := by
  have unclaimed : e.claimant? id = none := by
    obtain ⟨c, s⟩ := e
    cases c <;> first | rfl | cases ends
  rcases endsAs_of_ends ends id with ⟨gives, hbefore, hafter⟩ | ⟨still, going, hafter⟩
  · rw [hbefore, hafter]
    cases hcloses : e.closes id with
    | true => exact .closed unclaimed gives hcloses
    | false => exact .released unclaimed gives hcloses
  · exact .of_same unclaimed still going (standing_congr hafter)

/-- A pass over expired locks gives a job back for good when it finds it on its last attempt. -/
theorem closes_releaseStuck_iff (unique : s.UniqueIds) (now : Instant) (id : Uuid) :
    Entry.closes ⟨.releaseStuck now, s⟩ id = true ↔
      ∃ job, s.find? id = some job ∧ job.lockExpired now ∧ job.hasAttemptsRemaining = false := by
  show ((s.releaseStuck now).1.exhausted.any fun job => job.id = id) = true ↔ _
  rw [List.any_eq_true]
  constructor
  · rintro ⟨after, hmem, hid⟩
    obtain ⟨job, hjob, hexpired, hspent, rfl⟩ := mem_exhausted_iff.mp hmem
    have hid : job.id = id := of_decide_eq_true hid
    exact ⟨job, hid ▸ find?_of_mem unique hjob, hexpired, hspent⟩
  · rintro ⟨job, hfind, hexpired, hspent⟩
    have hid : job.id = id := id_of_find? hfind
    have hmem : exhausted job now ∈ (s.releaseStuck now).1.exhausted :=
      mem_exhausted_iff.mpr ⟨job, mem_of_find? hfind, hexpired, hspent, rfl⟩
    exact ⟨exhausted job now, hmem, decide_eq_true hid⟩

/-- A pass over expired locks gives back the jobs whose lock it takes away. -/
theorem moves_releaseStuck (unique : s.UniqueIds) (now : Instant) (id : Uuid) :
    Entry.Moves ⟨.releaseStuck now, s⟩ id (s.standing id) ((s.releaseStuck now).2.standing id) := by
  have closes_iff := closes_releaseStuck_iff unique now id
  have gives : Entry.releases ⟨.releaseStuck now, s⟩ id =
      (s.isProcessing id && !(s.releaseStuck now).2.isProcessing id) := rfl
  cases hfind : s.find? id with
  | none =>
    have hafter : (s.releaseStuck now).2.find? id = none := by
      rw [find?_releaseStuck, hfind, Option.map_none]
    rw [isProcessing, hfind] at gives
    rw [hfind] at closes_iff
    exact .of_same rfl gives (by simpa using closes_iff) (standing_congr (hafter.trans hfind.symm))
  | some job =>
    have hafter : (s.releaseStuck now).2.find? id = some (released job now) := by
      rw [find?_releaseStuck, hfind, Option.map_some]
    rw [standing_of_find? hfind, standing_of_find? hafter]
    rw [isProcessing, isProcessing, hfind, hafter] at gives
    simp only [hfind, Option.some.injEq, exists_eq_left'] at closes_iff
    cases hexpired : job.lockExpired now with
    | false =>
      have same : released job now = job := by simp [released, hexpired]
      refine .of_same rfl ?_ (by simpa [hexpired] using closes_iff) (by rw [same])
      rw [gives, same, Bool.and_not_self]
    | true =>
      have hprocessing := Job.status_of_lockExpired hexpired
      have hheld : job.standing = .held job.lockOwner := by rw [Job.standing, hprocessing]
      rw [hheld]
      cases hspared : job.hasAttemptsRemaining with
      | true =>
        have hreleased : released job now = requeued job now := by
          simp [released, hexpired, hspared]
        rw [hreleased] at gives ⊢
        refine .released rfl ?_ (by simpa [hspared] using closes_iff)
        rw [gives, Option.any_some, hprocessing]
        rfl
      | false =>
        have hreleased : released job now = exhausted job now := by
          simp [released, hexpired, hspared]
        rw [hreleased] at gives ⊢
        refine .closed rfl ?_ (closes_iff.mpr ⟨hexpired, hspared⟩)
        rw [gives, Option.any_some, hprocessing]
        rfl

/-- A submission that finds no job in its place leaves every job where it stands. -/
theorem moves_insert {job : Job} (asNew : job.IsSubmission) (absent : s.find? job.id = none)
    (id : Uuid) :
    Entry.Moves ⟨.insert job, s⟩ id (s.standing id) ((s.insert job).2.standing id) := by
  refine .of_same rfl rfl rfl ?_
  have waits : job.standing = .waiting := by
    rw [Job.standing, asNew]
    rfl
  have put (keys : List (String × Uuid)) :
      standing ⟨putJob job s.jobs, keys, s.deadLetters⟩ id = s.standing id := by
    unfold standing
    rw [find?_put]
    split
    next heq =>
      rw [← heq, absent]
      exact waits
    next => rfl
  unfold insert
  split
  · exact put _
  · split
    · rfl
    · exact put _

/-- **There is no other way**: every call moves every job in one of these ways, when submissions find
no job in their place. -/
theorem moves (unique : s.UniqueIds) (c : Call) (id : Uuid)
    (asNew : ∀ job, c = .insert job → job.IsSubmission ∧ s.find? job.id = none) :
    Entry.Moves ⟨c, s⟩ id (s.standing id) ((s.perform c).2.standing id) := by
  cases c with
  | insert job => exact moves_insert (asNew job rfl).1 (asNew job rfl).2 id
  | claimNext worker now => exact moves_claimNext unique worker now id
  | heartbeat target worker now => exact moves_heartbeat s target worker now id
  | markSucceeded target worker result now =>
    exact moves_of_ends (e := ⟨.markSucceeded target worker result now, s⟩) rfl id
  | markRetry target worker error availableAt now =>
    exact moves_of_ends (e := ⟨.markRetry target worker error availableAt now, s⟩) rfl id
  | markFailed target worker error now =>
    exact moves_of_ends (e := ⟨.markFailed target worker error now, s⟩) rfl id
  | releaseStuck now => exact moves_releaseStuck unique now id
  | incrementRetryCount target now =>
    refine .of_same rfl rfl rfl (standing_congr ?_)
    show (s.incrementRetryCount target now).2.find? id = s.find? id
    unfold incrementRetryCount
    split <;> rfl
  | find | list | snapshot | insertDeadLetter | findDeadLetter | listDeadLetters
  | deleteDeadLetter | deleteDeadLettersBefore | countDeadLetters => exact .of_same rfl rfl rfl rfl

/-! ## Claims that are outstanding -/

/-- A worker claimed a job that was not given back since. -/
def Outstanding (log : List Entry) (id : Uuid) (worker : String) : Prop :=
  ∃ past claim between, log = past ++ claim :: between ∧ claim.claimant? id = some worker ∧
    ∀ e ∈ between, e.releases id = false

variable {log : List Entry} {e : Entry}

theorem not_outstanding_nil : ¬ Outstanding [] id worker := by
  rintro ⟨past, claim, between, hlog, -⟩
  simp at hlog

theorem outstanding_concat :
    Outstanding (log ++ [e]) id worker ↔
      e.claimant? id = some worker ∨ (Outstanding log id worker ∧ e.releases id = false) := by
  constructor
  · rintro ⟨past, claim, between, hlog, hclaim, hbetween⟩
    rcases List.eq_nil_or_concat between with rfl | ⟨before, last, rfl⟩
    · obtain ⟨-, hlast⟩ := List.append_inj' hlog rfl
      cases hlast
      exact .inl hclaim
    · rw [List.concat_eq_append, ← List.cons_append, ← List.append_assoc] at hlog
      obtain ⟨rfl, hlast⟩ := List.append_inj' hlog rfl
      cases hlast
      refine .inr ⟨⟨past, claim, before, rfl, hclaim, fun e he => hbetween e ?_⟩, hbetween _ ?_⟩
      · rw [List.concat_eq_append]
        exact List.mem_append_left _ he
      · simp
  · rintro (hclaim | ⟨⟨past, claim, between, rfl, hclaim, hbetween⟩, hkept⟩)
    · exact ⟨log, e, [], rfl, hclaim, fun e he => nomatch he⟩
    · refine ⟨past, claim, between ++ [e], by simp, hclaim, fun e' he' => ?_⟩
      rcases List.mem_append.mp he' with h | h
      · exact hbetween e' h
      · rwa [List.mem_singleton.mp h]

/-! ## The law of the lock -/

/-- What passes between the queue and a worker. -/
inductive Handover where
  | claim
  | release
  deriving DecidableEq

/-- What an entry passes on of a job. -/
def Entry.handover? (e : Entry) (id : Uuid) : Option Handover :=
  if (e.claimant? id).isSome then some .claim
  else if e.releases id then some .release
  else none

/-- The claims and releases of a job, in their order. -/
def handovers (log : List Entry) (id : Uuid) : List Handover :=
  log.filterMap fun e => e.handover? id

theorem handovers_concat (log : List Entry) (e : Entry) (id : Uuid) :
    handovers (log ++ [e]) id = handovers log id ++ (e.handover? id).toList := by
  rw [handovers, List.filterMap_append, handovers]
  cases h : e.handover? id <;> simp [h]

/-- A log that tells where a job stands: who has a claim outstanding, and whether it came to its end.
Its claims and releases alternate, a claim first. -/
structure Tells (log : List Entry) (id : Uuid) (standing : Standing) : Prop where
  held_iff : ∀ worker, standing = .held (some worker) ↔ Outstanding log id worker
  over_iff : standing = .over ↔ ∃ e ∈ log, e.closes id = true
  last_iff : (handovers log id).getLast? = some .claim ↔ ∃ owner, standing = .held owner
  alternate : (handovers log id).IsChain (· ≠ ·)
  claimFirst : (handovers log id).head? ≠ some .release

theorem tells_nil (id : Uuid) : Tells [] id .waiting where
  held_iff worker := by simp [not_outstanding_nil]
  over_iff := by simp
  last_iff := by simp [handovers]
  alternate := .nil
  claimFirst := by simp [handovers]

theorem closed_concat :
    (∃ past ∈ log ++ [e], past.closes id = true) ↔
      (∃ past ∈ log, past.closes id = true) ∨ e.closes id = true := by
  simp [or_and_right, exists_or]

namespace Tells

variable {standing after : Standing} (tells : Tells log id standing)

include tells

/-- A handover keeps the order when the last one was of the other kind. -/
theorem alternate_concat {h : Handover} (hands : e.handover? id = some h)
    (last : (handovers log id).getLast? ≠ some h) :
    (handovers (log ++ [e]) id).IsChain (· ≠ ·) := by
  rw [handovers_concat, hands, List.isChain_append]
  refine ⟨tells.alternate, .singleton h, ?_⟩
  rintro x hx y hy rfl
  cases hy
  exact last hx

/-- The first handover stays the first one. -/
theorem claimFirst_concat
    (first : e.handover? id = some .release → (handovers log id).getLast? = some .claim) :
    (handovers (log ++ [e]) id).head? ≠ some .release := by
  rw [handovers_concat, List.head?_append]
  cases hhead : (handovers log id).head? with
  | some h =>
    rw [Option.some_or, ← hhead]
    exact tells.claimFirst
  | none =>
    have hnil : handovers log id = [] := List.head?_eq_none_iff.mp hhead
    intro hrelease
    have hands : e.handover? id = some .release := by
      cases hh : e.handover? id <;> simp_all
    simp [hnil] at first
    exact first hands

/-- What a log tells once a job was claimed that waited. -/
theorem claimed {worker : String} (claims : e.claimant? id = some worker)
    (going : e.closes id = false) (waiting : standing = .waiting) :
    Tells (log ++ [e]) id (.held (some worker)) := by
  have hands : e.handover? id = some .claim := by simp [Entry.handover?, claims]
  have last : (handovers log id).getLast? ≠ some .claim := by simp [tells.last_iff, waiting]
  refine ⟨fun owner => ?_, ?_, ?_, tells.alternate_concat hands last, ?_⟩
  · rw [outstanding_concat, ← tells.held_iff, claims, waiting]
    simp
  · rw [closed_concat, ← tells.over_iff, waiting, going]
    simp
  · rw [handovers_concat, hands]
    simp
  · exact tells.claimFirst_concat (by simp [hands])

/-- What a log tells once a job was given back that was held. -/
theorem released {owner : Option String} (unclaimed : e.claimant? id = none)
    (gives : e.releases id = true) (held : standing = .held owner) :
    Tells (log ++ [e]) id (if e.closes id then .over else .waiting) := by
  have hands : e.handover? id = some .release := by simp [Entry.handover?, unclaimed, gives]
  have last : (handovers log id).getLast? = some .claim := tells.last_iff.mpr ⟨owner, held⟩
  refine ⟨fun other => ?_, ?_, ?_, tells.alternate_concat hands (by simp [last]), ?_⟩
  · rw [outstanding_concat, unclaimed, gives]
    split <;> simp
  · rw [closed_concat, ← tells.over_iff, held]
    split <;> simp [*]
  · rw [handovers_concat, hands]
    split <;> simp
  · exact tells.claimFirst_concat fun _ => last

/-- What a log tells once nothing was done to the lock of a job. -/
theorem kept (unclaimed : e.claimant? id = none) (still : e.releases id = false)
    (going : e.closes id = false) : Tells (log ++ [e]) id standing := by
  have hands : handovers (log ++ [e]) id = handovers log id := by
    rw [handovers_concat]
    simp [Entry.handover?, unclaimed, still]
  refine ⟨fun other => ?_, ?_, ?_, ?_, ?_⟩
  · rw [outstanding_concat, unclaimed, still, tells.held_iff]
    simp
  · rw [closed_concat, ← tells.over_iff, going]
    simp
  · rw [hands, tells.last_iff]
  · rw [hands]
    exact tells.alternate
  · rw [hands]
    exact tells.claimFirst

/-- A log tells where a job stands after one more entry, too. -/
theorem concat (moves : e.Moves id standing after) : Tells (log ++ [e]) id after := by
  cases moves with
  | claimed claims still going => exact tells.claimed claims going rfl
  | released unclaimed gives going =>
    have h := tells.released unclaimed gives rfl
    rwa [going, if_neg Bool.false_ne_true] at h
  | closed unclaimed gives ends =>
    have h := tells.released unclaimed gives rfl
    rwa [ends, if_pos rfl] at h
  | kept unclaimed still going => exact tells.kept unclaimed still going

end Tells

/-- The log of a run of submissions tells where every job stands. -/
theorem tells_log {calls : List Call} (submitted : Submitted calls) (id : Uuid) :
    Tells (empty.log calls) id ((empty.after calls).standing id) := by
  induction calls using List.reverseRecOn with
  | nil => exact tells_nil id
  | append_singleton calls c ih =>
    rw [log_concat, after_concat]
    refine (ih submitted.of_append).concat (moves (uniqueIds_after uniqueIds_empty calls) c id ?_)
    rintro job rfl
    exact submitted.of_insert

/-- **The law of the lock.** Along every run that puts in submissions under identifiers of their own,
whatever the names and the clocks of the workers:
the claims and the releases of a job alternate, a claim first;
a claim finds no other claim of the job outstanding, and the job was never closed before;
a renewal or an end of an attempt is accepted exactly when a claim of its worker is outstanding;
and no two workers ever have a claim of one job outstanding. -/
theorem lock_discipline (calls : List Call) (submitted : Submitted calls) (id : Uuid) :
    (handovers (empty.log calls) id).IsChain (· ≠ ·) ∧
    (handovers (empty.log calls) id).head? ≠ some .release ∧
    ∀ earlier e later, empty.log calls = earlier ++ e :: later →
      (∀ worker, e.claimant? id = some worker →
        (∀ other, ¬ Outstanding earlier id other) ∧ ∀ past ∈ earlier, past.closes id = false) ∧
      (∀ worker, e.call.owner? = some (id, worker) →
        (e.call.grants (e.before.perform e.call).1 = true ↔ Outstanding earlier id worker)) ∧
      ∀ worker other, Outstanding earlier id worker → Outstanding earlier id other →
        worker = other := by
  have whole := tells_log submitted id
  refine ⟨whole.alternate, whole.claimFirst, fun earlier e later happened => ?_⟩
  obtain ⟨past, rest, rfl, rfl, hbefore⟩ := of_log_eq happened
  obtain ⟨c, s⟩ := e
  obtain rfl : s = empty.after past := hbefore
  have tells := tells_log submitted.of_append id
  refine ⟨fun worker claims => ?_, fun worker own => ?_, fun worker other => ?_⟩
  · have moved := moves (uniqueIds_after uniqueIds_empty past) c id (by
      rintro job rfl
      exact submitted.of_insert)
    have waiting := moved.waiting_of_claim claims
    refine ⟨fun other => ?_, fun closing hmem => ?_⟩
    · rw [← tells.held_iff, waiting]
      exact nofun
    · rw [← Bool.not_eq_true]
      intro closes
      have closed := tells.over_iff.mpr ⟨closing, hmem, closes⟩
      rw [waiting] at closed
      cases closed
  · rw [← tells.held_iff]
    exact grants_iff own
  · rw [← tells.held_iff, ← tells.held_iff]
    rintro h h'
    rw [h] at h'
    cases h'
    rfl

/-- In the run with a relay, the claim of `a` is outstanding when `a` renews its lock, and no longer
when `a` ends its attempt after the lock was taken away. -/
theorem lock_discipline_relay :
    handovers (empty.log Relay.calls) Relay.job.id = [.claim, .release, .claim, .release] ∧
    Outstanding ((empty.log Relay.calls).take 2) Relay.job.id "a" ∧
    ¬ Outstanding ((empty.log Relay.calls).take 6) Relay.job.id "a" := by
  have law := (lock_discipline Relay.calls Relay.submitted Relay.job.id).2.2
  have split (n : Nat) (hn : n < (empty.log Relay.calls).length) :
      empty.log Relay.calls = (empty.log Relay.calls).take n ++
        (empty.log Relay.calls)[n] :: (empty.log Relay.calls).drop (n + 1) := by
    rw [← List.drop_eq_getElem_cons hn, List.take_append_drop]
  obtain ⟨-, renewal, -⟩ := law _ _ _ (split 2 (by decide))
  obtain ⟨-, late, -⟩ := law _ _ _ (split 6 (by decide))
  refine ⟨by decide, (renewal "a" rfl).mp rfl, fun outstanding => ?_⟩
  have accepted := (late "a" rfl).mpr outstanding
  exact absurd accepted (by decide)

end Store

end JobQueue
