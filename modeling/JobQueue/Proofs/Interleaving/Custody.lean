import JobQueue.Proofs.Interleaving.Fresh

/-!
# The custody of a claimed job

A store has no version of a document by which a late write could be told from a timely one. A worker
that ends its attempt is only known by its name. What keeps it from writing over a later attempt is
that nobody else has its name, and that it claims nothing else before it ends what it claimed.

* `Occurrence.Takes`: a pass over expired locks released a job, or a claim handed it out.
* `Ledger.Custody`: the job that a worker treats is the one that it claimed last; its document is
  still that of the claim, up to renewals of its lock, for as long as nobody has taken it; and the
  worker does not hold it any more once somebody has.
* `System.finalize_custody`: hence the end of an attempt is accepted exactly when nobody has taken
  the job since the claim that is ended; a refused one writes nothing, and its iteration says that
  the lock was lost.
-/

namespace JobQueue

variable {handler ι κ : Type}

/-! ## Renewals -/

/-- A document that differs from another one in nothing but the times of its lock. -/
def Job.IsRenewalOf (doc job : Job) : Prop :=
  ∃ lockedAt beat updatedAt,
    doc = { job with lockedAt := lockedAt, lastHeartbeatAt := beat, updatedAt := updatedAt }

theorem Job.isRenewalOf_refl (job : Job) : job.IsRenewalOf job :=
  ⟨job.lockedAt, job.lastHeartbeatAt, job.updatedAt, rfl⟩

theorem Job.IsRenewalOf.renewed {doc job : Job} (h : doc.IsRenewalOf job) (now : Instant) :
    (Store.renewed doc now).IsRenewalOf job := by
  obtain ⟨lockedAt, beat, updatedAt, rfl⟩ := h
  exact ⟨some now, some now, now, rfl⟩

/-! ## Holding a lock -/

/-- The worker holds the lock of a job. -/
def Store.Holds (s : Store) (id : Uuid) (worker : String) : Prop :=
  ∃ doc, s.find? id = some doc ∧ doc.isLockedBy worker

namespace Change

variable {c : Call} {doc doc' : Job} {old new : Option Job} {worker : String}

/-- A worker holds a lock after a call only by its own claim, or because it held it before. -/
theorem held_before (h : Change c old (some doc')) (held : doc'.isLockedBy worker)
    (queued : ∀ job, c = .insert job → job.status = .queued) :
    (∃ now, c = .claimNext worker now) ∨
      ∃ doc, old = some doc ∧ doc.isLockedBy worker ∧
        ∀ job, doc.IsRenewalOf job → doc'.IsRenewalOf job := by
  rw [Job.isLockedBy_iff] at held
  cases h with
  | kept => exact .inr ⟨doc', rfl, Job.isLockedBy_iff.mpr held, fun _ h => h⟩
  | inserted =>
    rw [queued _ rfl] at held
    cases held.1
  | @claimed job now owner =>
    have heq : owner = worker := Option.some.inj held.2
    exact .inl ⟨now, by rw [heq]⟩
  | @renewed job owner now =>
    exact .inr ⟨job, rfl, Job.isLockedBy_iff.mpr held, fun _ h => h.renewed now⟩
  | succeeded | retried | failed | requeued | exhausted => cases held.1

/-- A worker holds its lock after every call that does not put a job in its place, does not end its
attempt and does not take an expired lock back. -/
theorem held_after (h : Change c (some doc) new) (held : doc.isLockedBy worker)
    (notInserted : ∀ job, c = .insert job → new ≠ some job)
    (notEnded : c.ends? ≠ some (doc.id, worker))
    (notReleased : ∀ now, c = .releaseStuck now → doc.lockExpired now = false) :
    ∃ doc', new = some doc' ∧ doc'.isLockedBy worker := by
  have hheld := Job.isLockedBy_iff.mp held
  -- whoever may change the document otherwise would have to hold its lock
  have other {owner : String} (howner : doc.isLockedBy owner) : owner = worker := by
    have howner := (Job.isLockedBy_iff.mp howner).2
    rw [hheld.2] at howner
    exact (Option.some.inj howner).symm
  cases h with
  | kept => exact ⟨doc, rfl, held⟩
  | inserted job => exact absurd rfl (notInserted job rfl)
  | claimed owner claimable => simp [Job.isClaimable, hheld.1] at claimable
  | renewed now howner => exact ⟨_, rfl, held⟩
  | succeeded result now howner => exact absurd (by rw [← other howner]; rfl) notEnded
  | retried error availableAt now howner => exact absurd (by rw [← other howner]; rfl) notEnded
  | failed error now howner => exact absurd (by rw [← other howner]; rfl) notEnded
  | @requeued _ now expired => exact absurd expired (by simp [notReleased now rfl])
  | @exhausted _ now expired => exact absurd expired (by simp [notReleased now rfl])

end Change

/-! ## Who took a job -/

namespace Occurrence

/-- The job was released from an expired lock, or handed out by a claim. -/
def Takes (id : Uuid) : Occurrence ι κ → Prop
  | .called _ (.releaseStuck now) before =>
    ∃ job, before.find? id = some job ∧ job.lockExpired now
  | .called _ (.claimNext worker now) before =>
    ∃ job, (before.claimNext worker now).1 = some job ∧ job.id = id
  | _ => False

/-- The actor made a call, or its program ended. -/
def IsBy (actor : Actor ι κ) (e : Occurrence ι κ) : Prop :=
  (∃ c before, e = .called actor c before) ∨ ∃ ending, e = .ended actor ending

end Occurrence

namespace Store

variable {s : Store} {id : Uuid} {worker : String} {now : Instant}

/-- Nobody holds the lock of a job that was released. -/
theorem not_holds_of_released {job : Job} (found : s.find? id = some job)
    (expired : job.lockExpired now) : ¬ (s.perform (.releaseStuck now)).2.Holds id worker := by
  rintro ⟨doc, hdoc, held⟩
  have hreleased : (s.releaseStuck now).2.find? id = some doc := hdoc
  rw [find?_releaseStuck, found, Option.map_some, Option.some.injEq] at hreleased
  rw [← hreleased, released_not_locked expired worker] at held
  cases held

/-- Nobody but the worker that claimed a job holds its lock. -/
theorem eq_of_holds_of_claimed {job : Job} {owner : String}
    (claimed : (s.claimNext owner now).1 = some job)
    (holds : (s.perform (.claimNext owner now)).2.Holds job.id worker) : owner = worker := by
  obtain ⟨doc, hdoc, held⟩ := holds
  obtain ⟨found, howner, -⟩ := claimNext_eq_some claimed
  have heq : some job = some doc := found.symm.trans hdoc
  cases heq
  have howner := (Job.isLockedBy_iff.mp howner).2
  rw [(Job.isLockedBy_iff.mp held).2] at howner
  exact (Option.some.inj howner).symm

end Store

/-! ## The invariant -/

namespace Ledger

variable {crew : ι → Worker handler} {l m : Ledger ι κ} {i : ι} {job : Job}
  {between : List (Occurrence ι κ)}

/-- A worker has claimed a job, with what happened since. -/
structure Custody (crew : ι → Worker handler) (l : Ledger ι κ) (i : ι) (job : Job)
    (between : List (Occurrence ι κ)) : Prop where
  claimed : ∃ past now found,
    l.history = past ++ .called (.worker i) (.claimNext (crew i).id now) found :: between ∧
      (found.claimNext (crew i).id now).1 = some job
  alone : ∀ e ∈ between, ¬ e.IsBy (.worker i)
  holds_iff : l.store.Holds job.id (crew i).id ↔ ∀ e ∈ between, ¬ e.Takes job.id
  renewal : ∀ doc, l.store.find? job.id = some doc → doc.isLockedBy (crew i).id →
    doc.IsRenewalOf job

/-- A claim begins the custody of the job that it hands out. -/
theorem custody_of_claim {now : Instant} (h : (l.store.claimNext (crew i).id now).1 = some job) :
    (l.called (.worker i) (.claimNext (crew i).id now)).Custody crew i job [] := by
  obtain ⟨found, held, -⟩ := Store.claimNext_eq_some h
  have nothing {p : Occurrence ι κ → Prop} : ∀ e ∈ [], p e := List.forall_mem_nil p
  refine ⟨⟨l.history, now, l.store, rfl, h⟩, nothing, ?_, fun doc hdoc _ => ?_⟩
  · exact ⟨fun _ => nothing, fun _ => ⟨job, found, held⟩⟩
  · have heq : some job = some doc := found.symm.trans hdoc
    cases heq
    exact job.isRenewalOf_refl

/-- Custody goes on when something happens that neither is by the worker nor touches the store. -/
theorem Custody.idle (custody : l.Custody crew i job between) {e : Occurrence ι κ}
    (hstore : m.store = l.store) (hhistory : m.history = l.history ++ [e])
    (other : ¬ e.IsBy (.worker i)) (quiet : ¬ e.Takes job.id) :
    m.Custody crew i job (between ++ [e]) := by
  obtain ⟨past, now, found, hpast, hclaim⟩ := custody.claimed
  refine ⟨⟨past, now, found, ?_, hclaim⟩, ?_, ?_, ?_⟩
  · rw [hhistory, hpast, List.append_assoc, List.cons_append]
  · intro e' he'
    rcases List.mem_append.mp he' with h | h
    · exact custody.alone e' h
    · rwa [List.mem_singleton.mp h]
  · rw [hstore, custody.holds_iff]
    simp only [List.mem_append, List.mem_singleton]
    constructor
    · rintro h e' (he' | rfl)
      · exact h e' he'
      · exact quiet
    · exact fun h e' he' => h e' (.inl he')
  · rw [hstore]
    exact custody.renewal

/-- Nobody else claims in the name of a worker. -/
theorem not_permits_claimNext (distinct : Function.Injective fun i => (crew i).id)
    {a : Actor ι κ} {p : Phase} {now : Instant} (other : a ≠ .worker i) :
    ¬ a.permits crew p (.claimNext (crew i).id now) := by
  intro permitted
  obtain ⟨j, rfl, hj⟩ := Actor.worker_of_claimNext permitted
  rw [distinct hj] at other
  exact other rfl

theorem queued_of_insert {a : Actor ι κ} {p : Phase} {c : Call} (permitted : a.permits crew p c)
    (job : Job) (hc : c = .insert job) : job.status = .queued := by
  rw [hc] at permitted
  exact (Actor.drawn_of_insert permitted).2.queued

/-- A worker comes to treat a job only by a claim. -/
theorem claim_of_treating {w : Worker handler} {p : Phase} {s : Store} {c : Call}
    (permitted : w.permits p c) (h : (p.called c (s.perform c).1).stage = .treating job) :
    ∃ now, c = .claimNext w.id now ∧ (s.claimNext w.id now).1 = some job := by
  cases hends : c.ends? with
  | some end? =>
    rw [Phase.stage_called, Stage.called_of_ends _ hends] at h
    split at h <;> cases h
  | none =>
    cases c <;> simp only [Call.ends?, reduceCtorEq] at hends
    case claimNext worker now =>
      obtain ⟨rfl, -⟩ := permitted
      have h : p.stage.called (.claimNext w.id now) (.ok (s.claimNext w.id now).1) =
        .treating job := h
      refine ⟨now, rfl, ?_⟩
      cases hclaim : (s.claimNext w.id now).1 with
      | none =>
        rw [hclaim] at h
        cases h
      | some job' =>
        rw [hclaim] at h
        cases h
        rfl
    case releaseStuck => cases h
    case insertDeadLetter record =>
      have h : p.stage = .treating job := h
      rcases permitted.1 with hstage | hstage <;> rw [hstage] at h <;> cases h
    all_goals exact permitted.elim

variable [DecidableEq ι] [DecidableEq κ]

/-- A call of another actor leaves the worker the lock of its job exactly when it did not take the
job, and gives nobody a lock in the name of the worker. -/
theorem holds_called_iff (distinct : Function.Injective fun i => (crew i).id) (fresh : l.Fresh)
    {a : Actor ι κ} {c : Call} (permitted : a.permits crew (phase l.history a) c)
    (other : a ≠ .worker i) (id : Uuid) :
    (l.store.perform c).2.Holds id (crew i).id ↔
      l.store.Holds id (crew i).id ∧ ¬ (Occurrence.called a c l.store).Takes id := by
  have change := Store.change_perform fresh.unique c id
  constructor
  · rintro ⟨doc', hdoc', held⟩
    rw [hdoc'] at change
    refine ⟨?_, fun takes => ?_⟩
    · rcases change.held_before held (queued_of_insert permitted) with
        ⟨now, rfl⟩ | ⟨doc, hdoc, held, -⟩
      · exact absurd permitted (not_permits_claimNext distinct other)
      · exact ⟨doc, hdoc, held⟩
    · cases c with
      | releaseStuck now =>
        obtain ⟨job, found, expired⟩ := takes
        exact Store.not_holds_of_released found expired ⟨doc', hdoc', held⟩
      | claimNext worker now =>
        obtain ⟨job, hclaim, rfl⟩ := takes
        obtain ⟨j, rfl, hj⟩ := Actor.worker_of_claimNext permitted
        have heq := Store.eq_of_holds_of_claimed hclaim ⟨doc', hdoc', held⟩
        rw [hj] at heq
        rw [distinct heq] at other
        exact other rfl
      | _ => exact takes
  · rintro ⟨⟨doc, hdoc, held⟩, quiet⟩
    rw [hdoc] at change
    refine change.held_after held ?_ ?_ ?_
    · rintro job rfl hjob
      have absent := fresh.new_of_insert permitted
      rw [Store.id_of_find? hjob, hdoc] at absent
      cases absent
    · intro ends
      obtain ⟨j, rfl, hj, -⟩ := Actor.worker_of_ends permitted ends
      rw [distinct hj] at other
      exact other rfl
    · rintro now rfl
      by_contra hexpired
      exact quiet ⟨doc, hdoc, by simpa using hexpired⟩

/-- Custody goes on over a call of another actor. -/
theorem Custody.called (distinct : Function.Injective fun i => (crew i).id) (fresh : l.Fresh)
    (custody : l.Custody crew i job between) {a : Actor ι κ} {c : Call}
    (permitted : a.permits crew (phase l.history a) c) (other : a ≠ .worker i) :
    (l.called a c).Custody crew i job (between ++ [.called a c l.store]) := by
  obtain ⟨past, now, found, hpast, hclaim⟩ := custody.claimed
  refine ⟨⟨past, now, found, ?_, hclaim⟩, ?_, ?_, ?_⟩
  · show l.history ++ [_] = _
    rw [hpast, List.append_assoc, List.cons_append]
  · intro e he
    rcases List.mem_append.mp he with h | h
    · exact custody.alone e h
    · rw [List.mem_singleton.mp h]
      rintro (⟨c', before, heq⟩ | ⟨ending, heq⟩)
      · cases heq
        exact other rfl
      · cases heq
  · show (l.store.perform c).2.Holds _ _ ↔ _
    rw [holds_called_iff distinct fresh permitted other, custody.holds_iff]
    simp only [List.mem_append, List.mem_singleton]
    constructor
    · rintro ⟨h, quiet⟩ e (he | rfl)
      · exact h e he
      · exact quiet
    · exact fun h => ⟨fun e he => h e (.inl he), h _ (.inr rfl)⟩
  · intro doc hdoc held
    have change := Store.change_perform fresh.unique c job.id
    rw [show (l.store.perform c).2.find? job.id = some doc from hdoc] at change
    rcases change.held_before held (queued_of_insert permitted) with
      ⟨now, rfl⟩ | ⟨doc, hdoc, held, renewed⟩
    · exact absurd permitted (not_permits_claimNext distinct other)
    · exact renewed job (custody.renewal doc hdoc held)

/-- Every worker that treats a job has it in its custody. -/
def InCustody (crew : ι → Worker handler) (l : Ledger ι κ) : Prop :=
  ∀ i job, (phase l.history (.worker i)).stage = .treating job →
    ∃ between, l.Custody crew i job between

theorem inCustody_opening (crew : ι → Worker handler) (start : Store) :
    (opening start : Ledger ι κ).InCustody crew := by
  intro i job h
  cases h

/-- Custody is kept by every step. -/
theorem InCustody.step (distinct : Function.Injective fun i => (crew i).id) (fresh : l.Fresh)
    (custody : l.InCustody crew) (h : Step crew l m) : m.InCustody crew := by
  intro i job treating
  cases h with
  | @called a c permitted =>
    rw [history_called, phase_called] at treating
    split at treating
    next heq =>
      subst heq
      obtain ⟨now, rfl, hclaim⟩ := claim_of_treating permitted treating
      exact ⟨[], custody_of_claim hclaim⟩
    next hne =>
      obtain ⟨between, h⟩ := custody i job treating
      exact ⟨_, h.called distinct fresh permitted hne⟩
  | @drew a id hnew =>
    rw [history_drew, phase_drew] at treating
    have treating : (phase l.history (.worker i)).stage = .treating job := by
      split at treating <;> exact treating
    obtain ⟨between, h⟩ := custody i job treating
    refine ⟨_, h.idle rfl rfl ?_ fun takes => takes⟩
    rintro (⟨c, before, heq⟩ | ⟨ending, heq⟩) <;> cases heq
  | @ended a ending concluded =>
    rw [history_ended, phase_ended] at treating
    split at treating
    next => cases treating
    next hne =>
      obtain ⟨between, h⟩ := custody i job treating
      refine ⟨_, h.idle rfl rfl ?_ fun takes => takes⟩
      rintro (⟨c, before, heq⟩ | ⟨ending, heq⟩)
      · cases heq
      · cases heq
        exact hne rfl

theorem Course.inCustody (distinct : Function.Injective fun i => (crew i).id) (h : Course crew l m)
    (fresh : l.Fresh) (custody : l.InCustody crew) : m.InCustody crew := by
  induction h with
  | refl => exact custody
  | tail hcourse hstep ih => exact ih.step distinct (Course.fresh hcourse fresh) hstep

theorem Reached.inCustody (distinct : Function.Injective fun i => (crew i).id)
    (h : Reached crew l) : l.InCustody crew :=
  Course.inCustody distinct h (fresh_opening Store.uniqueIds_empty) (inCustody_opening crew .empty)

/-! ## A lost lock -/

/-- A worker whose end of an attempt was refused does nothing more until its iteration ends. -/
theorem Course.lost {id : Uuid} {middle : List (Occurrence ι κ)} (h : Course crew l m)
    (hm : m.history = l.history ++ middle) (lost : (phase l.history (.worker i)).stage = .lost id)
    (going : ∀ ending, .ended (.worker i) ending ∉ middle) :
    (phase m.history (.worker i)).stage = .lost id := by
  induction h generalizing middle with
  | refl => exact lost
  | @tail m m' hcourse hstep ih =>
    obtain ⟨begun, hbegun⟩ := Course.history_prefix hcourse
    obtain ⟨e, he⟩ := hstep.history
    have hmiddle : middle = begun ++ [e] := by
      rw [he, ← hbegun, List.append_assoc] at hm
      exact (List.append_cancel_left hm).symm
    have lost' := ih hbegun.symm fun ending h =>
      going ending (hmiddle ▸ List.mem_append_left _ h)
    cases hstep with
    | @called a c permitted =>
      rw [history_called, phase_called]
      split
      next heq =>
        subst heq
        exact absurd permitted (Worker.not_permits_of_lost lost')
      next => exact lost'
    | @drew a id hnew =>
      rw [history_drew, phase_drew]
      split <;> exact lost'
    | @ended a ending concluded =>
      rw [history_ended, phase_ended]
      split
      next heq =>
        subst heq
        have hlast : e = .ended (.worker i) ending :=
          (List.cons.inj (List.append_cancel_left he)).1.symm
        exact absurd (hmiddle ▸ hlast ▸ List.mem_append_right _ List.mem_cons_self)
          (going ending)
      next => exact lost'

end Ledger

/-! ## The end of an attempt -/

variable [DecidableEq ι] [DecidableEq κ]

/-- **Custody at the end of an attempt.** Whenever a call ends an attempt, in whatever order workers
and clients made their calls, its worker had claimed the job, has done nothing since, so that no
claim is ended twice, and makes the call in its own name. The call is accepted exactly when nobody
has taken the job since, and then the document that it finds is that of the claim, up to renewals of
its lock. If it is refused then it writes nothing, and the iteration ends with a lost lock. -/
theorem System.finalize_custody {crew : ι → Worker handler}
    (distinct : Function.Injective fun i => (crew i).id) {start : Store} (unique : start.UniqueIds)
    {moves : List (Move ι κ)} {s : System handler ι κ}
    (run : (System.opening start).run crew moves = some s)
    {earlier later : List (Occurrence ι κ)} {actor : Actor ι κ} {c : Call} {before : Store}
    (happened : s.history = earlier ++ .called actor c before :: later)
    {id : Uuid} {owner : String} (ends : c.ends? = some (id, owner)) :
    ∃ i past now found job between,
      actor = .worker i ∧ owner = (crew i).id ∧ job.id = id ∧
      earlier = past ++ .called (.worker i) (.claimNext owner now) found :: between ∧
      (found.claimNext owner now).1 = some job ∧
      (∀ e ∈ between, ¬ e.IsBy (.worker i)) ∧
      (c.accepts (before.perform c).1 = true ↔ ∀ e ∈ between, ¬ e.Takes id) ∧
      (c.accepts (before.perform c).1 = true →
        ∃ doc, before.find? id = some doc ∧ doc.isLockedBy owner ∧ doc.IsRenewalOf job) ∧
      (c.accepts (before.perform c).1 = false →
        (before.perform c).2 = before ∧
        ∀ middle ending rest, later = middle ++ .ended (.worker i) ending :: rest →
          (∀ other, .ended (.worker i) other ∉ middle) →
          ending = .iteration (.ok (some (.lockLost id)))) := by
  have course := System.run_course run
  obtain ⟨m, hm, rfl, rfl, permitted, hm'⟩ := Ledger.Course.of_called course happened
  obtain ⟨i, rfl, rfl, job, treating, rfl⟩ := Actor.worker_of_ends permitted ends
  have custody := Ledger.Course.inCustody distinct hm (Ledger.fresh_opening unique)
    (Ledger.inCustody_opening crew start)
  obtain ⟨between, custody⟩ := custody i job treating
  obtain ⟨past, now, found, hpast, hclaim⟩ := custody.claimed
  have accepts_iff := (Store.accepts_iff (s := m.store) ends).trans custody.holds_iff
  refine ⟨i, past, now, found, job, between, rfl, rfl, rfl, hpast, hclaim,
    custody.alone, accepts_iff, fun accepted => ?_, fun refused => ⟨?_, ?_⟩⟩
  · obtain ⟨doc, hdoc, held⟩ := (Store.accepts_iff ends).mp accepted
    exact ⟨doc, hdoc, held, custody.renewal doc hdoc held⟩
  · exact Store.perform_of_refused ends refused
  · rintro middle ending rest rfl going
    have lost : (phase (m.called (.worker i) c).history (.worker i)).stage = .lost job.id := by
      rw [Ledger.history_called, phase_called, if_pos rfl, Phase.stage_called,
        Stage.called_of_ends _ ends, refused]
      rfl
    -- the step at which the iteration ends, seen from the refused call
    have hsplit : s.history =
        ((m.called (.worker i) c).history ++ middle) ++ .ended (.worker i) ending :: rest := by
      rw [happened, Ledger.history_called]
      simp
    obtain ⟨n, n', hn, hend, -, hmiddle, hended⟩ := hm'.split (List.prefix_append _ _) hsplit
    rw [← hmiddle] at hended
    obtain ⟨r, rfl, -, hlost⟩ := hend.of_ended hended
    rw [hlost job.id (hn.lost hmiddle lost going)]

/-- The worker that is late writes nothing, and its iteration says that the lock was lost. -/
theorem System.finalize_custody_late :
    ∃ earlier before later,
      LateWorker.final.history =
        earlier ++
          .called (.worker 0) (.markSucceeded (.ofNat 1) "a" .null LateWorker.evening) before ::
          .ended (.worker 0) (.iteration (.ok (some (.lockLost (.ofNat 1))))) :: later ∧
      (before.markSucceeded (.ofNat 1) "a" .null LateWorker.evening).2 = before := by
  obtain ⟨before, happened, hrefused⟩ : ∃ before,
      LateWorker.final.history = LateWorker.final.history.take 8 ++
        .called (.worker 0) (.markSucceeded (.ofNat 1) "a" .null LateWorker.evening) before ::
          LateWorker.final.history.drop 9 ∧
      (before.markSucceeded (.ofNat 1) "a" .null LateWorker.evening).1 = false := ⟨_, rfl, rfl⟩
  obtain ⟨i, -, -, -, -, -, hi, -, -, -, -, -, -, -, refused⟩ :=
    System.finalize_custody LateWorker.crew_distinct Store.uniqueIds_empty LateWorker.run_eq
      happened rfl
  cases hi
  obtain ⟨unwritten, outcome⟩ := refused hrefused
  obtain ⟨ending, hending⟩ : ∃ ending, LateWorker.final.history.drop 9 =
      [] ++ .ended (.worker 0) ending :: LateWorker.final.history.drop 10 := ⟨_, rfl⟩
  rw [outcome [] ending _ hending (fun _ => List.not_mem_nil)] at hending
  exact ⟨_, before, _, hending ▸ happened, unwritten⟩

end JobQueue
