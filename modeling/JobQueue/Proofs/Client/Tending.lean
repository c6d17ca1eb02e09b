import JobQueue.Proofs.Client.Lasting
import JobQueue.Proofs.Client.Resubmission
import JobQueue.Proofs.Interleaving.Custody
import JobQueue.Proofs.Settings.Rules
import JobQueue.Proofs.Time.Forward

/-!
# Locks that are tended

While a handler runs, its worker renews the lock of the job from time to time: first one period
after the claim, and then period by period. Settings make the period shorter than a lock lasts, so
that nobody else gets the job until the worker ends its attempt, however long that takes and
whatever others call in between.

* `Tended`: calls among which the renewals of a worker come in time.
* `Job.lockExpired_eq_false`: a lock that was renewed in time has not run out.
* `Tended.spares`: no call takes the job from its worker.
* `Store.tended_lock_lasts`: so for every job that was submitted under valid settings, from its
  claim to the end of the attempt.
-/

namespace JobQueue

/-! ## Calls in time -/

namespace Call

/-- The worker in whose name a call is made. -/
def worker? : Call → Option String
  | .claimNext worker _ => some worker
  | .heartbeat _ worker _ => some worker
  | .markSucceeded _ worker _ _ => some worker
  | .markRetry _ worker _ _ _ => some worker
  | .markFailed _ worker _ _ => some worker
  | _ => none

/-- The time with which a call is made. -/
def time? : Call → Option Instant
  | .claimNext _ now => some now
  | .heartbeat _ _ now => some now
  | .markSucceeded _ _ _ now => some now
  | .markRetry _ _ _ _ now => some now
  | .markFailed _ _ _ now => some now
  | .releaseStuck now => some now
  | .snapshot now => some now
  | .incrementRetryCount _ now => some now
  | _ => none

end Call

/-- Calls after the claim of a job, of whose renewals `n` were made before: the worker renews the
lock one period after the claim or the renewal before, and nobody else calls with a later time
before it does. The others call nothing in the name of the worker, and put no job in the place of
this one. -/
inductive Tended (id : Uuid) (worker : String) (periodMs : Nat) (claimedAt : Instant) :
    Nat → List Call → Prop
  | nil (n : Nat) : Tended id worker periodMs claimedAt n []
  | renewal {n : Nat} {time : Instant} {calls : List Call}
      (due : claimedAt.afterMs? ((n + 1) * periodMs) = some time)
      (rest : Tended id worker periodMs claimedAt (n + 1) calls) :
      Tended id worker periodMs claimedAt n (.heartbeat id worker time :: calls)
  | other {n : Nat} {c : Call} {calls : List Call} (others : c.worker? ≠ some worker)
      (apart : ∀ job, c.inserted? = some job → job.id ≠ id)
      (prompt : ∀ time due, c.time? = some time →
        claimedAt.afterMs? ((n + 1) * periodMs) = some due → time ≤ due)
      (rest : Tended id worker periodMs claimedAt n calls) :
      Tended id worker periodMs claimedAt n (c :: calls)

/-! ## The lock -/

section Lock

variable {id : Uuid} {worker : String} {periodMs n : Nat} {claimedAt time now : Instant}
  {doc job : Job} {s : Store} {c : Call}

/-- A lock that ran out had an end, which is past. -/
theorem Job.deadline_of_lockExpired (locked : doc.lockedAt = some time)
    (expired : doc.lockExpired now = true) :
    ∃ deadline, time.afterMs? doc.visibilityTimeoutMs.toNat = some deadline ∧ deadline < now := by
  obtain ⟨-, start, deadline, lockedAt, ends, past⟩ := lockExpired_iff.mp expired
  rw [locked, Option.some.injEq] at lockedAt
  subst lockedAt
  exact ⟨deadline, ends, past⟩

/-- A lock that lasts longer than a period has not run out before the next renewal is due. -/
theorem Job.lockExpired_eq_false (locked : doc.lockedAt = some time)
    (renewed : claimedAt.afterMs? (n * periodMs) = some time)
    (lasts : periodMs ≤ doc.visibilityTimeoutMs.toNat)
    (prompt : ∀ due, claimedAt.afterMs? ((n + 1) * periodMs) = some due → now ≤ due) :
    doc.lockExpired now = false := by
  refine Bool.eq_false_iff.mpr fun expired => ?_
  obtain ⟨deadline, ends, past⟩ := deadline_of_lockExpired locked expired
  have sooner : (n + 1) * periodMs ≤ n * periodMs + doc.visibilityTimeoutMs.toNat := by
    rw [Nat.succ_mul]
    exact Nat.add_le_add_left lasts _
  obtain ⟨due, hdue, before⟩ := Instant.exists_afterMs?_of_le renewed ends sooner
  exact Instant.not_lt_of_le (Instant.le_trans (prompt due hdue) before) past

/-- Nobody but the worker that holds it changes a document whose lock has not run out. -/
theorem Change.eq_of_held {new : Option Job} (h : Change c (some doc) new)
    (held : doc.isLockedBy worker) (others : c.worker? ≠ some worker)
    (apart : ∀ job, c.inserted? = some job → new ≠ some job)
    (lasts : ∀ now, c = .releaseStuck now → doc.lockExpired now = false) : new = some doc := by
  have hheld := Job.isLockedBy_iff.mp held
  have stranger {owner : String} (howner : doc.isLockedBy owner) : some owner = some worker := by
    rw [← (Job.isLockedBy_iff.mp howner).2, hheld.2]
  cases h with
  | kept => rfl
  | inserted job => exact absurd rfl (apart job rfl)
  | claimed owner claimable =>
    rw [Job.status_of_isClaimable claimable] at hheld
    cases hheld.1
  | renewed now howner => exact absurd (stranger howner) others
  | succeeded result now howner => exact absurd (stranger howner) others
  | retried error availableAt now howner => exact absurd (stranger howner) others
  | failed error now howner => exact absurd (stranger howner) others
  | @requeued _ now expired => exact absurd expired (by simp [lasts now rfl])
  | @exhausted _ now expired => exact absurd expired (by simp [lasts now rfl])

end Lock

namespace Store

/-- The worker holds the lock of a job as it claimed it, and renewed it last at this time. -/
def HeldSince (s : Store) (job : Job) (worker : String) (time : Instant) : Prop :=
  ∃ doc, s.find? job.id = some doc ∧ doc.isLockedBy worker ∧ doc.lockedAt = some time ∧
    doc.IsRenewalOf job

/-- A call leaves a claimed job to its worker: it finds the job as the worker claimed it, its lock
in force; it does not hand the job out; and it does not change it unless it is the worker's own. -/
def Entry.Spares (e : Entry) (job : Job) (worker : String) : Prop :=
  ∃ doc, e.before.find? job.id = some doc ∧ doc.isLockedBy worker ∧ doc.IsRenewalOf job ∧
    (∀ now, e.call = .releaseStuck now → doc.lockExpired now = false) ∧
    e.handsOut job.id = false ∧
    (e.call.worker? ≠ some worker → e.after.find? job.id = some doc)

variable {s : Store} {job : Job} {worker : String} {time : Instant}

@[simp] theorem renewed_id (job : Job) (now : Instant) : (renewed job now).id = job.id := rfl

/-- The worker that holds the lock renews it. -/
theorem HeldSince.heartbeat (h : s.HeldSince job worker time) (now : Instant) :
    (s.heartbeat job.id worker now).1 = true ∧
      (s.heartbeat job.id worker now).2.HeldSince job worker now := by
  obtain ⟨doc, found, held, -, renewal⟩ := h
  have locked := lockedBy?_eq_some_iff.mpr ⟨found, held⟩
  rw [Store.heartbeat, updateLocked, locked]
  refine ⟨rfl, renewed doc now, ?_, held, rfl, renewal.renewed now⟩
  rw [find?_put, renewed_id, if_pos (id_of_find? found)]

/-- What somebody else calls before the next renewal is due leaves the job to its worker. -/
theorem HeldSince.other {periodMs n : Nat} {claimedAt : Instant} {c : Call} (unique : s.UniqueIds)
    (h : s.HeldSince job worker time) (renewed : claimedAt.afterMs? (n * periodMs) = some time)
    (lasts : periodMs ≤ job.visibilityTimeoutMs.toNat) (others : c.worker? ≠ some worker)
    (apart : ∀ other, c.inserted? = some other → other.id ≠ job.id)
    (prompt : ∀ time due, c.time? = some time →
      claimedAt.afterMs? ((n + 1) * periodMs) = some due → time ≤ due) :
    Entry.Spares ⟨c, s⟩ job worker ∧ (s.perform c).2.HeldSince job worker time := by
  obtain ⟨doc, found, held, locked, renewal⟩ := h
  have timeout : doc.visibilityTimeoutMs = job.visibilityTimeoutMs := by
    obtain ⟨_, _, _, rfl⟩ := renewal
    rfl
  have inForce (now : Instant) (hc : c = .releaseStuck now) : doc.lockExpired now = false :=
    Job.lockExpired_eq_false locked renewed (timeout ▸ lasts)
      fun due hdue => prompt now due (by rw [hc]; rfl) hdue
  have change := change_perform unique c job.id
  rw [found] at change
  have same : (s.perform c).2.find? job.id = some doc := by
    refine change.eq_of_held held others (fun other put after => ?_) inForce
    exact apart other put (id_of_find? after)
  have notHanded : Entry.handsOut ⟨c, s⟩ job.id = false := by
    by_cases claims : ∃ owner now, c = .claimNext owner now
    · obtain ⟨owner, now, rfl⟩ := claims
      show (s.claimNext owner now).1.any (fun other => other.id = job.id) = false
      cases answer : (s.claimNext owner now).1 with
      | none => rfl
      | some claimed =>
        -- it would be in the store as it was handed out, with another owner
        obtain ⟨after, howner, -⟩ := claimNext_eq_some answer
        refine decide_eq_false fun hid => ?_
        rw [hid] at after
        have eq : claimed = doc := Option.some.inj (after.symm.trans same)
        rw [eq, Job.isLockedBy_iff] at howner
        exact others (howner.2.symm.trans (Job.isLockedBy_iff.mp held).2)
    · exact handsOut_eq_false fun owner now hc => claims ⟨owner, now, hc⟩
  exact ⟨⟨doc, found, held, renewal, inForce, notHanded, fun _ => same⟩,
    doc, same, held, locked, renewal⟩

/-- The end of its attempt is accepted from the worker that holds the lock. -/
theorem HeldSince.accepts (h : s.HeldSince job worker time) {c : Call}
    (ends : c.ends? = some (job.id, worker)) : c.accepts (s.perform c).1 = true := by
  obtain ⟨doc, found, held, -⟩ := h
  exact (accepts_iff ends).mpr ⟨doc, found, held⟩

/-- A claim is the beginning of a lock. -/
theorem heldSince_claimNext {now : Instant} (claim : (s.claimNext worker now).1 = some job) :
    (s.claimNext worker now).2.HeldSince job worker now := by
  obtain ⟨found, held, old, -, -, rfl⟩ := claimNext_eq_some claim
  exact ⟨_, found, held, rfl, Job.isRenewalOf_refl _⟩

end Store

/-- **Nobody takes a job whose lock is tended** from its worker, as long as the lock lasts longer
than a period. -/
theorem Tended.spares {s : Store} {job : Job} {worker : String} {periodMs n : Nat}
    {claimedAt time : Instant} {calls : List Call}
    (tended : Tended job.id worker periodMs claimedAt n calls) (unique : s.UniqueIds)
    (held : s.HeldSince job worker time) (renewed : claimedAt.afterMs? (n * periodMs) = some time)
    (lasts : periodMs ≤ job.visibilityTimeoutMs.toNat) :
    (∀ e ∈ s.log calls, e.Spares job worker) ∧
      ∃ time, (s.after calls).HeldSince job worker time := by
  induction tended generalizing s time with
  | nil => exact ⟨fun e he => absurd he List.not_mem_nil, time, held⟩
  | @renewal n next calls due rest ih =>
    obtain ⟨-, after⟩ := held.heartbeat next
    obtain ⟨later, last⟩ :=
      ih (Store.uniqueIds_perform unique (.heartbeat job.id worker next)) after due
    obtain ⟨doc, found, owned, -, renewal⟩ := held
    refine ⟨fun e he => ?_, last⟩
    rcases List.mem_cons.mp he with rfl | he
    · exact ⟨doc, found, owned, renewal, fun _ h => (by cases h), rfl, fun h => absurd rfl h⟩
    · exact later e he
  | @other n c calls others apart prompt rest ih =>
    obtain ⟨first, after⟩ := held.other unique renewed lasts others apart prompt
    obtain ⟨later, last⟩ := ih (Store.uniqueIds_perform unique _) after renewed
    refine ⟨fun e he => ?_, last⟩
    rcases List.mem_cons.mp he with rfl | he
    · exact first
    · exact later e he

/-! ## Jobs under valid settings -/

/-- Valid settings renew a lock before it runs out. -/
theorem Settings.heartbeat_lt_timeout {settings : Settings} (valid : settings.validate = .ok ()) :
    settings.heartbeatIntervalMs.toNat < settings.visibilityTimeoutMs.toNat := by
  have sound := validate_eq_ok_iff.mp valid
  exact UInt64.lt_iff_toNat_lt.mp sound.heartbeat_lt

/-- A submission that is accepted is in the store, with the timeout of its settings. -/
theorem Operation.find?_of_enqueue {c : Client} {r : NewJob} {w : Occasion} {s : Store}
    {first : Job}
    (accepted : ((c.enqueue r : QueueProgram Unit Job).run.alone s w.ahead).1 = .ok first) :
    (Operation.after s (.enqueue c r w)).find? first.id = some first ∧
      first.visibilityTimeoutMs = c.settings.visibilityTimeoutMs := by
  obtain ⟨n, alone⟩ := @Client.alone_enqueue Unit c r s w.ahead
  rw [alone] at accepted
  rw [after, alone]
  dsimp only at accepted ⊢
  rw [Client.submitted] at accepted ⊢
  cases hcheck : c.check r with
  | error e =>
    rw [hcheck] at accepted
    cases accepted
  | ok admitted =>
    rw [hcheck] at accepted
    dsimp only at accepted ⊢
    rcases s.insert_cases (c.stamp admitted (w.ahead 2).id (w.ahead 1).time) with
      ⟨e, refused⟩ | ⟨keys, put⟩
    · rw [refused] at accepted
      cases accepted
    · rw [put] at accepted ⊢
      cases accepted
      exact ⟨by rw [Store.find?_put, if_pos rfl], rfl⟩

/-- A document that was submitted under some settings keeps their timeout. -/
theorem Store.timeout_of_submitted {past middle : List Operation} {c : Client} {r : NewJob}
    {w : Occasion} {first last : Job}
    (distinct : ((past ++ .enqueue c r w :: middle).filterMap Operation.puts?).Nodup)
    (accepted : ((c.enqueue r : QueueProgram Unit Job).run.alone
      (empty.following past) w.ahead).1 = .ok first)
    (found : (empty.following (past ++ .enqueue c r w :: middle)).find? first.id = some last) :
    last.visibilityTimeoutMs = c.settings.visibilityTimeoutMs := by
  obtain ⟨stored, timeout⟩ := Operation.find?_of_enqueue accepted
  rw [List.append_cons] at distinct found
  rw [← following_concat] at stored
  obtain ⟨calls, hpast⟩ := amounts_following empty (past ++ [.enqueue c r w])
  obtain ⟨more, hmiddle⟩ := amounts_following (empty.following (past ++ [.enqueue c r w])) middle
  have both := hpast.append hmiddle
  have distinctIds : DistinctIds (calls ++ more) := distinct.sublist both.puts
  rw [hpast.after] at stored
  obtain ⟨last', hlast, continues⟩ := continues_after distinctIds stored
  rw [both.after, hlast, Option.some.injEq] at found
  rw [← found, continues.visibilityTimeoutMs, timeout]

/-- **The lock of a running job lasts.** A client submits a job under valid settings, and after
whatever else happens to the store, a worker claims it. As long as the worker renews the lock one
period after the claim and then period by period, each time before anybody calls with a later time,
everybody else may call what they like in names of their own: no pass over expired locks releases
the job, no claim hands it out, its document stays as it was claimed but for the times of the lock,
and the call with which the worker ends its attempt is accepted, whenever it comes. -/
theorem Store.tended_lock_lasts {past middle : List Operation} {c : Client} {r : NewJob}
    {w : Occasion} {first job : Job} {worker : String} {claimedAt : Instant} {calls : List Call}
    (valid : c.settings.validate = .ok ())
    (distinct : ((past ++ .enqueue c r w :: middle).filterMap Operation.puts?).Nodup)
    (accepted : ((c.enqueue r : QueueProgram Unit Job).run.alone
      (empty.following past) w.ahead).1 = .ok first)
    (claim : ((empty.following (past ++ .enqueue c r w :: middle)).claimNext worker claimedAt).1 =
      some job)
    (own : job.id = first.id)
    (tended : Tended job.id worker c.settings.heartbeatIntervalMs.toNat claimedAt 0 calls) :
    let s := ((empty.following (past ++ .enqueue c r w :: middle)).claimNext worker claimedAt).2
    (∀ e ∈ s.log calls, e.Spares job worker) ∧
      (∃ doc, (s.after calls).find? job.id = some doc ∧ doc.IsRenewalOf job) ∧
      ∀ finish : Call, finish.ends? = some (job.id, worker) →
        finish.accepts ((s.after calls).perform finish).1 = true := by
  intro s
  have unique : (empty.following (past ++ .enqueue c r w :: middle)).UniqueIds := by
    obtain ⟨all, hall⟩ := amounts_following empty (past ++ .enqueue c r w :: middle)
    rw [hall.after]
    exact uniqueIds_after uniqueIds_empty all
  have lasts : c.settings.heartbeatIntervalMs.toNat ≤ job.visibilityTimeoutMs.toNat := by
    obtain ⟨-, -, old, hold, -, rfl⟩ := claimNext_eq_some claim
    have found := find?_of_mem unique hold
    have timeout := timeout_of_submitted distinct accepted (own ▸ found)
    show _ ≤ old.visibilityTimeoutMs.toNat
    rw [timeout]
    exact Nat.le_of_lt (Settings.heartbeat_lt_timeout valid)
  have renewed :
      claimedAt.afterMs? (0 * c.settings.heartbeatIntervalMs.toNat) = some claimedAt := by
    rw [Nat.zero_mul, Instant.afterMs?, Instant.after?_eq_add?]
    exact Instant.add?_zero claimedAt
  obtain ⟨spared, time, held⟩ := tended.spares
    (uniqueIds_perform unique (.claimNext worker claimedAt)) (heldSince_claimNext claim) renewed
    lasts
  refine ⟨spared, ?_, fun finish ends => held.accepts ends⟩
  obtain ⟨doc, found, -, -, renewal⟩ := held
  exact ⟨doc, found, renewal⟩

/-! ### A letter that takes long

Writing the letter takes longer than its lock lasts, while another worker releases and claims what
it can get.
-/

namespace Letter

/-- A time of day, in seconds. -/
def clock (seconds : Nat) : Instant := (Instant.ofMilliseconds? (seconds * 1000)).getD .epoch

/-- The letter as the worker claimed it. -/
def begun : Job := Store.claimed stored "w" .epoch

/-- What is called for a bit longer than a minute. -/
def minute : List Call :=
  [.heartbeat (.ofNat 1) "w" (clock 15), .claimNext "b" (clock 20), .releaseStuck (clock 30),
    .heartbeat (.ofNat 1) "w" (clock 30), .heartbeat (.ofNat 1) "b" (clock 40),
    .heartbeat (.ofNat 1) "w" (clock 45), .heartbeat (.ofNat 1) "w" (clock 60),
    .releaseStuck (clock 70)]

theorem valid : client.settings.validate = .ok () := by decide +kernel

/-- When the renewals are due. -/
theorem due : ∀ n < 5, Instant.epoch.afterMs?
    ((n + 1) * client.settings.heartbeatIntervalMs.toNat) = some (clock ((n + 1) * 15)) := by
  decide +kernel

theorem tended_minute : Tended (.ofNat 1) "w" client.settings.heartbeatIntervalMs.toNat .epoch 0
    minute := by
  have apart {c : Call} (h : c.inserted? = none) (job : Job) (put : c.inserted? = some job) :
      job.id ≠ .ofNat 1 := by
    rw [h] at put
    cases put
  have prompt (n seconds : Nat) (few : n < 5) (h : clock seconds ≤ clock ((n + 1) * 15)) :
      ∀ time next, some (clock seconds) = some time →
        Instant.epoch.afterMs? ((n + 1) * client.settings.heartbeatIntervalMs.toNat) = some next →
          time ≤ next := by
    intro time next htime hnext
    rw [due n few] at hnext
    cases htime
    cases hnext
    exact h
  refine .renewal (due 0 (by decide)) ?_
  refine .other (by decide) (apart rfl) (prompt 1 20 (by decide) (by decide)) ?_
  refine .other (by decide) (apart rfl) (prompt 1 30 (by decide) (by decide)) ?_
  refine .renewal (due 1 (by decide)) ?_
  refine .other (by decide) (apart rfl) (prompt 2 40 (by decide) (by decide)) ?_
  refine .renewal (due 2 (by decide)) (.renewal (due 3 (by decide)) ?_)
  exact .other (by decide) (apart rfl) (prompt 4 70 (by decide) (by decide)) (.nil 4)

end Letter

theorem Store.tended_lock_lasts_letter :
    (Call.markSucceeded (.ofNat 1) "w" .null (Letter.clock 71)).accepts
      ((((Store.empty.following Letter.underWay).claimNext "w" .epoch).2.after
        Letter.minute).perform (.markSucceeded (.ofNat 1) "w" .null (Letter.clock 71))).1 =
      true := by
  have accepted : ((Letter.client.enqueue Letter.first : QueueProgram Unit Job).run.alone
      (empty.following []) (Letter.occasion 1).ahead).1 = .ok Letter.stored := rfl
  have claim : ((empty.following Letter.underWay).claimNext "w" .epoch).1 = some Letter.begun := rfl
  have lasts := @tended_lock_lasts [] [] Letter.client Letter.first (Letter.occasion 1)
    Letter.stored Letter.begun "w" .epoch Letter.minute Letter.valid (by decide) accepted claim rfl
    Letter.tended_minute
  exact lasts.2.2 _ rfl

end JobQueue
