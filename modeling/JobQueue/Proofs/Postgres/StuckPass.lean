import JobQueue.Postgres.Store
import JobQueue.Proofs.Postgres.Dialogue

/-!
# The pass over expired locks in PostgreSQL

The pass makes one statement for every job that it fails, each in a transaction of its own, and ends
at the first error. A job that was failed before the error stays failed, but the pass does not
answer it, so that nobody makes its record.

* `failedRows`: the rows that were failed, as the database gave them back.
* `LosesNoJob`: all of them are answered.
* `Smooth`: every statement succeeded, and everything in the replies can be read.
* `releaseStuck_losesNoJob_iff`: a pass loses no job exactly when no row was failed at all, or all
  of it was smooth. A smooth pass answers the rows that it failed, in their order.
-/

namespace JobQueue.Postgres

open QueueExchange

/-! ## What a pass fails and what it answers -/

/-- The rows of a reply. -/
def Reply.rows : Reply → List Row
  | .failure _ => []
  | .success rows _ => rows

/-- The statement did what it was made for. -/
def Reply.Succeeds : Reply → Prop
  | .failure _ => False
  | .success _ _ => True

/-- The rows that the guarded updates of a dialogue failed, as the database gave them back. Such an
update names one job, so that there is at most one row in its reply. -/
def failedRows (d : List (Statement × Reply)) : List Row :=
  d.flatMap fun e => if e.1.sql = failsExpired then e.2.rows.head?.toList else []

/-- The rows that a dialogue found without attempts left. -/
def candidates (d : List (Statement × Reply)) : List Row :=
  d.flatMap fun e => if e.1.sql = selectsSpent then e.2.rows else []

/-- The jobs that a pass answers. -/
def reported : Except QueueError StuckRelease → List Job
  | .ok release => release.exhausted
  | .error _ => []

/-- Every row that the pass failed is among the jobs that it answers. -/
def LosesNoJob (now : Instant) (replies : List Reply) : Prop :=
  ∀ row ∈ failedRows ((releaseStuck now).run.dialogue replies),
    ∃ job ∈ reported ((releaseStuck now).run.ending replies), jobOfRow row = .ok job

/-- What is read of a candidate: its identifier and its lock. -/
def lockSeen (candidate : Row) : Except QueueError (Uuid × Option String × Option Instant) := do
  let id ← candidate.required "id" .uuid
  let owner ← candidate.optional "lock_owner" .text
  let lockedAt ← candidate.optional "locked_at" .instant
  pure (id, owner, lockedAt)

/-- Nothing goes wrong in a dialogue over these candidates. -/
structure Smooth (found : List Row) (d : List (Statement × Reply)) : Prop where
  /-- Every statement succeeds. -/
  answered : ∀ e ∈ d, e.2.Succeeds
  /-- Every candidate can be read. -/
  readable : ∀ candidate ∈ found, ∃ lock, lockSeen candidate = .ok lock
  /-- Every row that was failed is the row of a job. -/
  decoded : ∀ row ∈ failedRows d, ∃ job, jobOfRow row = .ok job

/-! ## One candidate -/

/-- The statement that fails a candidate. -/
def failing (now : Instant) (lock : Uuid × Option String × Option Instant) : Statement :=
  ⟨failsExpired, [some (.uuid lock.1), lock.2.1.map .text,
    some (failureDatum (.visibilityTimeout lock.2.1)), some (.ofInstant now),
    lock.2.2.map .ofInstant]⟩

/-- What is taken from the reply to it. -/
def jobTaken : Reply → Except QueueError (Option Job)
  | .failure code => .error (failed code)
  | .success [] _ => .ok none
  | .success (row :: _) _ => some <$> jobOfRow row

/-- A candidate that cannot be read ends the exchange before its statement. -/
theorem failExpired_run (candidate : Row) (now : Instant) :
    (failExpired candidate now).run =
      match lockSeen candidate with
      | .error e => .done (.error e)
      | .ok lock => .send (failing now lock) fun reply => .done (jobTaken reply) := by
  unfold failExpired lockSeen
  cases candidate.required "id" .uuid with
  | error e => rfl
  | ok id =>
    cases candidate.optional "lock_owner" .text with
    | error e => rfl
    | ok owner =>
      cases candidate.optional "locked_at" .instant with
      | error e => rfl
      | ok lockedAt =>
        refine congrArg (Exchange.send _) (funext fun reply => ?_)
        cases reply with
        | failure code => rfl
        | success rows n =>
          cases rows with
          | nil => rfl
          | cons row rows =>
            show (some <$> settled (jobOfRow row) : QueueExchange (Option Job)).run =
              Exchange.done (some <$> jobOfRow row)
            cases jobOfRow row <;> rfl

theorem jobTaken_isOk_iff (reply : Reply) :
    (∃ job, jobTaken reply = .ok job) ↔
      reply.Succeeds ∧ ∀ row ∈ reply.rows.head?, ∃ job, jobOfRow row = .ok job := by
  match reply with
  | .failure code => simp [jobTaken, Reply.Succeeds]
  | .success [] n => simp [jobTaken, Reply.Succeeds, Reply.rows]
  | .success (row :: rows) n =>
    cases h : jobOfRow row with
    | error e => simp [jobTaken, Reply.rows, h, Functor.map, Except.map]
    | ok job => simp [jobTaken, Reply.Succeeds, Reply.rows, h, Functor.map, Except.map]

theorem mapM_of_jobTaken {reply : Reply} {job : Option Job} (taken : jobTaken reply = .ok job) :
    reply.rows.head?.toList.mapM jobOfRow = .ok job.toList := by
  match reply with
  | .failure code => exact nomatch taken
  | .success [] n =>
    obtain rfl : none = job := Except.ok.inj taken
    rfl
  | .success (row :: rows) n =>
    cases h : jobOfRow row with
    | error e =>
      rw [jobTaken, h] at taken
      exact nomatch taken
    | ok found =>
      rw [jobTaken, h] at taken
      obtain rfl : some found = job := Except.ok.inj taken
      show [row].mapM jobOfRow = .ok [found]
      rw [List.mapM_cons, h]
      rfl

/-! ## One candidate after the other -/

theorem failedRows_failing (now : Instant) (lock : Uuid × Option String × Option Instant)
    (reply : Reply) (d : List (Statement × Reply)) :
    failedRows ((failing now lock, reply) :: d) = reply.rows.head?.toList ++ failedRows d := by
  rw [failedRows, List.flatMap_cons]
  exact congrArg (· ++ failedRows d) (if_pos rfl)

/-- A dialogue is smooth from its first candidate on. -/
theorem smooth_cons_iff (now : Instant) {candidate : Row}
    {lock : Uuid × Option String × Option Instant} (seen : lockSeen candidate = .ok lock)
    (rest : List Row) (reply : Reply) (d : List (Statement × Reply)) :
    Smooth (candidate :: rest) ((failing now lock, reply) :: d) ↔
      (∃ job, jobTaken reply = .ok job) ∧ Smooth rest d := by
  rw [jobTaken_isOk_iff]
  constructor
  · rintro ⟨answered, readable, decoded⟩
    rw [failedRows_failing] at decoded
    rw [List.forall_mem_cons] at answered readable
    refine ⟨⟨answered.1, fun row h => decoded row ?_⟩, answered.2, readable.2,
      fun row h => decoded row (List.mem_append_right _ h)⟩
    exact List.mem_append_left _ (Option.mem_toList.mpr h)
  · rintro ⟨⟨succeeds, taken⟩, answered, readable, decoded⟩
    refine ⟨List.forall_mem_cons.mpr ⟨succeeds, answered⟩,
      List.forall_mem_cons.mpr ⟨⟨lock, seen⟩, readable⟩, fun row h => ?_⟩
    rw [failedRows_failing, List.mem_append, Option.mem_toList] at h
    exact h.elim (taken row) (decoded row)

section Candidates

variable (now : Instant) (candidate : Row) (rest : List Row) (replies : List Reply)

/-- The pass over a candidate and the rest, as one exchange after another. -/
theorem failAllExpired_run_cons :
    (failAllExpired now (candidate :: rest)).run =
      (failExpired candidate now).run >>= fun
        | .error e => .done (.error e)
        | .ok job => (failAllExpired now rest).run >>= fun jobs =>
            .done ((job.toList ++ ·) <$> jobs) := by
  refine congrArg (Exchange.bind _) (funext fun job => ?_)
  cases job with
  | error e => rfl
  | ok job =>
    refine congrArg (Exchange.bind _) (funext fun jobs => ?_)
    cases jobs <;> rfl

variable {candidate}

theorem failAllExpired_unreadable {e : QueueError} (unseen : lockSeen candidate = .error e) :
    (failAllExpired now (candidate :: rest)).run = .done (.error e) := by
  rw [failAllExpired_run_cons, failExpired_run, unseen]
  rfl

variable {lock : Uuid × Option String × Option Instant} (seen : lockSeen candidate = .ok lock)

include seen

theorem failAllExpired_readable :
    (failAllExpired now (candidate :: rest)).run =
      .send (failing now lock) fun reply =>
        match jobTaken reply with
        | .error e => .done (.error e)
        | .ok job => (failAllExpired now rest).run >>= fun jobs =>
            .done ((job.toList ++ ·) <$> jobs) := by
  rw [failAllExpired_run_cons, failExpired_run, seen]
  rfl

/-- The pass ends at the first reply from which no job can be taken. -/
theorem failAllExpired_cut {e : QueueError}
    (untaken : jobTaken (replies.headD Exchange.silence) = .error e) :
    (failAllExpired now (candidate :: rest)).run.dialogue replies =
        [(failing now lock, replies.headD Exchange.silence)] ∧
      (failAllExpired now (candidate :: rest)).run.ending replies = .error e := by
  rw [failAllExpired_readable now rest seen, Exchange.dialogue_send, Exchange.ending_send, untaken]
  exact ⟨congrArg _ (Exchange.dialogue_done _ _), rfl⟩

/-- Otherwise it goes on with the rest. -/
theorem failAllExpired_on {job : Option Job}
    (taken : jobTaken (replies.headD Exchange.silence) = .ok job) :
    (failAllExpired now (candidate :: rest)).run.dialogue replies =
        (failing now lock, replies.headD Exchange.silence) ::
          (failAllExpired now rest).run.dialogue replies.tail ∧
      (failAllExpired now (candidate :: rest)).run.ending replies =
        (job.toList ++ ·) <$> (failAllExpired now rest).run.ending replies.tail := by
  rw [failAllExpired_readable now rest seen, Exchange.dialogue_send, Exchange.ending_send, taken]
  dsimp only
  rw [Exchange.dialogue_bind, Exchange.dialogue_done, List.append_nil, Exchange.ending_bind]
  exact ⟨rfl, rfl⟩

end Candidates

/-- How the pass over candidates goes: the statements it makes with their replies, and how it ends.
-/
inductive Pass (now : Instant) :
    List Row → List (Statement × Reply) → Except QueueError (List Job) → Prop where
  | finished : Pass now [] [] (.ok [])
  | unreadable {candidate : Row} {rest : List Row} {e : QueueError} :
      lockSeen candidate = .error e → Pass now (candidate :: rest) [] (.error e)
  | cut {candidate : Row} {rest : List Row} {lock : Uuid × Option String × Option Instant}
      {reply : Reply} {e : QueueError} :
      lockSeen candidate = .ok lock → jobTaken reply = .error e →
        Pass now (candidate :: rest) [(failing now lock, reply)] (.error e)
  | further {candidate : Row} {rest : List Row} {lock : Uuid × Option String × Option Instant}
      {reply : Reply} {job : Option Job} {d : List (Statement × Reply)}
      {answer : Except QueueError (List Job)} :
      lockSeen candidate = .ok lock → jobTaken reply = .ok job → Pass now rest d answer →
        Pass now (candidate :: rest) ((failing now lock, reply) :: d) ((job.toList ++ ·) <$> answer)

theorem failAllExpired_pass (now : Instant) (found : List Row) (replies : List Reply) :
    Pass now found ((failAllExpired now found).run.dialogue replies)
      ((failAllExpired now found).run.ending replies) := by
  induction found generalizing replies with
  | nil =>
    rw [show (failAllExpired now []).run = .done (.ok []) from rfl, Exchange.dialogue_done]
    exact .finished
  | cons candidate rest ih =>
    cases seen : lockSeen candidate with
    | error e =>
      rw [failAllExpired_unreadable now rest seen, Exchange.dialogue_done]
      exact .unreadable seen
    | ok lock =>
      cases taken : jobTaken (replies.headD Exchange.silence) with
      | error e =>
        obtain ⟨hd, he⟩ := failAllExpired_cut now rest replies seen taken
        rw [hd, he]
        exact .cut seen taken
      | ok job =>
        obtain ⟨hd, he⟩ := failAllExpired_on now rest replies seen taken
        rw [hd, he]
        exact .further seen taken (ih replies.tail)

namespace Pass

variable {now : Instant} {found : List Row} {d : List (Statement × Reply)}
  {answer : Except QueueError (List Job)}

theorem sql (pass : Pass now found d answer) : ∀ e ∈ d, e.1.sql = failsExpired := by
  induction pass with
  | finished => exact nofun
  | unreadable => exact nofun
  | cut => exact List.forall_mem_singleton.mpr rfl
  | further _ _ _ ih => exact List.forall_mem_cons.mpr ⟨rfl, ih⟩

/-- It ends well exactly when nothing goes wrong. -/
theorem isOk_iff (pass : Pass now found d answer) :
    (∃ jobs, answer = .ok jobs) ↔ Smooth found d := by
  induction pass with
  | finished => exact ⟨fun _ => ⟨nofun, nofun, nofun⟩, fun _ => ⟨[], rfl⟩⟩
  | unreadable unseen =>
    refine ⟨fun ⟨_, h⟩ => (nomatch h), fun smooth => ?_⟩
    obtain ⟨lock, seen⟩ := smooth.readable _ List.mem_cons_self
    exact nomatch unseen.symm.trans seen
  | cut seen untaken =>
    refine ⟨fun ⟨_, h⟩ => (nomatch h), fun smooth => ?_⟩
    obtain ⟨⟨job, taken⟩, -⟩ := (smooth_cons_iff now seen _ _ _).mp smooth
    exact nomatch untaken.symm.trans taken
  | @further _ _ _ _ job _ answer seen taken _ ih =>
    rw [smooth_cons_iff now seen, ← ih]
    constructor
    · rintro ⟨jobs, h⟩
      cases answer with
      | error e => exact nomatch h
      | ok rest => exact ⟨⟨job, taken⟩, rest, rfl⟩
    · rintro ⟨-, rest, rfl⟩
      exact ⟨job.toList ++ rest, rfl⟩

/-- It then answers the rows that were failed, in their order. -/
theorem mapM_failedRows {jobs : List Job} (pass : Pass now found d answer)
    (ok : answer = .ok jobs) : (failedRows d).mapM jobOfRow = .ok jobs := by
  induction pass generalizing jobs with
  | finished => exact ok
  | unreadable => exact nomatch ok
  | cut => exact nomatch ok
  | @further _ _ lock reply job d answer _ taken _ ih =>
    cases answer with
    | error e => exact nomatch ok
    | ok rest =>
      obtain rfl : job.toList ++ rest = jobs := Except.ok.inj ok
      rw [failedRows_failing, List.mapM_append, mapM_of_jobTaken taken, ih rfl]
      rfl

end Pass

/-! ## The whole pass -/

/-- The statement that queues jobs again. -/
def requeuing (now : Instant) : Statement := ⟨requeuesExpired, [some (.ofInstant now)]⟩

/-- The statement that looks for candidates. -/
def selecting (now : Instant) : Statement := ⟨selectsSpent, [some (.ofInstant now)]⟩

/-- The pass makes its first two statements and goes over the rows of the second one's reply. -/
theorem releaseStuck_run (now : Instant) :
    (releaseStuck now).run =
      .send (requeuing now) fun
        | .failure code => .done (.error (failed code))
        | .success _ n => .send (selecting now) fun
          | .failure code => .done (.error (failed code))
          | .success found _ => (failAllExpired now found).run >>= fun jobs =>
              .done ((⟨UInt64.ofNat n, ·⟩) <$> jobs) := by
  refine congrArg (Exchange.send _) (funext fun reply => ?_)
  cases reply with
  | failure code => rfl
  | success rows n =>
    refine congrArg (Exchange.send _) (funext fun reply => ?_)
    cases reply with
    | failure code => rfl
    | success found m =>
      show (failAllExpired now found).run.bind _ = (failAllExpired now found).run.bind _
      refine congrArg (Exchange.bind _) (funext fun jobs => ?_)
      cases jobs <;> rfl

/-- What was read of a whole pass, and how it ended. -/
inductive WholePass (now : Instant) :
    List (Statement × Reply) → Except QueueError StuckRelease → Prop where
  | requeueFailed (code : String) :
      WholePass now [(requeuing now, .failure code)] (.error (failed code))
  | selectFailed (code : String) (rows : List Row) (n : Nat) :
      WholePass now [(requeuing now, .success rows n), (selecting now, .failure code)]
        (.error (failed code))
  | swept (rows : List Row) (n : Nat) (found : List Row) (m : Nat) {d : List (Statement × Reply)}
      {answer : Except QueueError (List Job)} : Pass now found d answer →
      WholePass now
        ((requeuing now, .success rows n) :: (selecting now, .success found m) :: d)
        ((⟨UInt64.ofNat n, ·⟩) <$> answer)

theorem releaseStuck_wholePass (now : Instant) (replies : List Reply) :
    WholePass now ((releaseStuck now).run.dialogue replies)
      ((releaseStuck now).run.ending replies) := by
  rw [releaseStuck_run, Exchange.dialogue_send, Exchange.ending_send]
  cases replies.headD Exchange.silence with
  | failure code =>
    rw [Exchange.dialogue_done]
    exact .requeueFailed code
  | success rows n =>
    dsimp only
    rw [Exchange.dialogue_send, Exchange.ending_send]
    cases replies.tail.headD Exchange.silence with
    | failure code =>
      rw [Exchange.dialogue_done]
      exact .selectFailed code rows n
    | success found m =>
      dsimp only
      rw [Exchange.dialogue_bind, Exchange.dialogue_done, List.append_nil, Exchange.ending_bind]
      exact .swept rows n found m (failAllExpired_pass now found _)

/-- Only the update of a candidate fails a job, and only the second statement looks for candidates.
-/
theorem failedRows_whole (now : Instant) (first second : Reply) (d : List (Statement × Reply)) :
    failedRows ((requeuing now, first) :: (selecting now, second) :: d) = failedRows d := by
  have hr : requeuesExpired ≠ failsExpired := by decide
  have hs : selectsSpent ≠ failsExpired := by decide
  simp [failedRows, requeuing, selecting, hr, hs]

theorem candidates_whole (now : Instant) (first second : Reply) {d : List (Statement × Reply)}
    (hd : ∀ e ∈ d, e.1.sql = failsExpired) :
    candidates ((requeuing now, first) :: (selecting now, second) :: d) = second.rows := by
  have hr : requeuesExpired ≠ selectsSpent := by decide
  have hf : failsExpired ≠ selectsSpent := by decide
  have none : candidates d = [] := by
    refine List.flatMap_eq_nil_iff.mpr fun e he => ?_
    rw [hd e he]
    exact if_neg hf
  simpa [candidates, requeuing, selecting, hr] using none

theorem smooth_whole_iff (now : Instant) (rows found : List Row) (n m : Nat)
    {d : List (Statement × Reply)} (hd : ∀ e ∈ d, e.1.sql = failsExpired) :
    let whole :=
      (requeuing now, Reply.success rows n) :: (selecting now, Reply.success found m) :: d
    Smooth (candidates whole) whole ↔ Smooth found d := by
  intro whole
  have hw : failedRows whole = failedRows d := failedRows_whole now _ _ d
  rw [show candidates whole = found from candidates_whole now _ _ hd]
  constructor
  · rintro ⟨answered, readable, decoded⟩
    exact ⟨fun e he => answered e (.tail _ (.tail _ he)), readable, hw ▸ decoded⟩
  · rintro ⟨answered, readable, decoded⟩
    refine ⟨?_, readable, hw.symm ▸ decoded⟩
    exact List.forall_mem_cons.mpr ⟨trivial, List.forall_mem_cons.mpr ⟨trivial, answered⟩⟩

namespace WholePass

variable {now : Instant} {d : List (Statement × Reply)} {answer : Except QueueError StuckRelease}

theorem isOk_iff (pass : WholePass now d answer) :
    (∃ release, answer = .ok release) ↔ Smooth (candidates d) d := by
  cases pass with
  | requeueFailed code =>
    refine ⟨fun ⟨_, h⟩ => (nomatch h), fun smooth => ?_⟩
    exact (smooth.answered _ List.mem_cons_self).elim
  | selectFailed code rows n =>
    refine ⟨fun ⟨_, h⟩ => (nomatch h), fun smooth => ?_⟩
    exact (smooth.answered _ (.tail _ List.mem_cons_self)).elim
  | @swept rows n found m d answer pass =>
    refine Iff.trans ?_ (smooth_whole_iff now rows found n m pass.sql).symm
    rw [← pass.isOk_iff]
    cases answer with
    | error e => exact ⟨fun ⟨_, h⟩ => (nomatch h), fun ⟨_, h⟩ => (nomatch h)⟩
    | ok jobs => exact ⟨fun _ => ⟨jobs, rfl⟩, fun _ => ⟨_, rfl⟩⟩

theorem mapM_failedRows {release : StuckRelease} (pass : WholePass now d answer)
    (ok : answer = .ok release) : (failedRows d).mapM jobOfRow = .ok release.exhausted := by
  cases pass with
  | requeueFailed code => exact nomatch ok
  | selectFailed code rows n => exact nomatch ok
  | @swept rows n found m d answer pass =>
    rw [failedRows_whole]
    cases answer with
    | error e => exact nomatch ok
    | ok jobs =>
      obtain rfl : StuckRelease.mk (UInt64.ofNat n) jobs = release := Except.ok.inj ok
      exact pass.mapM_failedRows rfl

end WholePass

/-- Each row is read as one of the jobs. -/
theorem exists_mem_of_mapM {rows : List Row} {jobs : List Job}
    (h : rows.mapM jobOfRow = .ok jobs) : ∀ row ∈ rows, ∃ job ∈ jobs, jobOfRow row = .ok job := by
  induction rows generalizing jobs with
  | nil => exact nofun
  | cons row rows ih =>
    rw [List.mapM_cons] at h
    cases first : jobOfRow row with
    | error e =>
      rw [first] at h
      exact nomatch h
    | ok job =>
      cases others : rows.mapM jobOfRow with
      | error e =>
        rw [first, others] at h
        exact nomatch h
      | ok rest =>
        rw [first, others] at h
        obtain rfl : job :: rest = jobs := Except.ok.inj h
        refine List.forall_mem_cons.mpr ⟨⟨job, List.mem_cons_self, first⟩, fun row' hrow => ?_⟩
        obtain ⟨job', hjob, read⟩ := ih others row' hrow
        exact ⟨job', List.mem_cons_of_mem _ hjob, read⟩

/-- A pass loses no job exactly when it failed none, or when every statement succeeded and all that
it read could be read. It then ends well and answers the rows that it failed, in their order. -/
theorem releaseStuck_losesNoJob_iff (now : Instant) (replies : List Reply) :
    let d := (releaseStuck now).run.dialogue replies
    (LosesNoJob now replies ↔ failedRows d = [] ∨ Smooth (candidates d) d) ∧
      (Smooth (candidates d) d →
        ∃ release, (releaseStuck now).run.ending replies = .ok release ∧
          (failedRows d).mapM jobOfRow = .ok release.exhausted) := by
  intro d
  have pass : WholePass now d ((releaseStuck now).run.ending replies) :=
    releaseStuck_wholePass now replies
  refine ⟨⟨fun keeps => ?_, fun h row hrow => ?_⟩, fun smooth => ?_⟩
  · cases ended : (releaseStuck now).run.ending replies with
    | ok release => exact .inr (pass.isOk_iff.mp ⟨release, ended⟩)
    | error e =>
      -- An error answers no job at all, so that no row can have been failed.
      refine .inl (List.eq_nil_iff_forall_not_mem.mpr fun row hrow => ?_)
      obtain ⟨job, hjob, -⟩ := keeps row hrow
      rw [ended] at hjob
      exact nomatch hjob
  · rcases h with none | smooth
    · exact absurd (none ▸ hrow) List.not_mem_nil
    · obtain ⟨release, ended⟩ := pass.isOk_iff.mpr smooth
      rw [ended]
      exact exists_mem_of_mapM (pass.mapM_failedRows ended) row hrow
  · obtain ⟨release, ended⟩ := pass.isOk_iff.mpr smooth
    exact ⟨release, ended, pass.mapM_failedRows ended⟩

/-- A job that was failed when its last lock ran out. -/
def spentJob : Job :=
  { Job.queued (.ofNat 1) "mail" (.object []) .epoch with
    status := .failed
    attempts := 3
    error := some (.visibilityTimeout (some "a")) }

/-- What the pass finds of a job that `a` held. -/
def heldByA (id : Uuid) : Row :=
  [("id", ⟨.uuid, some (.uuid id)⟩), ("lock_owner", ⟨.text, some (.text "a")⟩),
    ("locked_at", ⟨.timestamptz, some (.ofInstant .epoch)⟩)]

/-- A pass that finds two jobs. It fails the first, and the statement for the second is cancelled.
-/
def cancelled : List Reply :=
  [.success [] 0, .success [heldByA spentJob.id, heldByA (.ofNat 2)] 0,
    .success [rowOf jobColumns (jobBindings spentJob)] 1, .failure "57014"]

/-- The job that was failed is read from its row, but the pass ends in an error and answers none. -/
theorem releaseStuck_cancelled_loses_job :
    failedRows ((releaseStuck .epoch).run.dialogue cancelled) =
        [rowOf jobColumns (jobBindings spentJob)] ∧
      jobOfRow (rowOf jobColumns (jobBindings spentJob)) = .ok spentJob ∧
      (releaseStuck .epoch).run.ending cancelled = .error (failed "57014") ∧
      ¬ LosesNoJob .epoch cancelled := by
  have row : failedRows ((releaseStuck .epoch).run.dialogue cancelled) =
      [rowOf jobColumns (jobBindings spentJob)] := by decide +kernel
  have ended : (releaseStuck .epoch).run.ending cancelled = .error (failed "57014") := by rfl
  refine ⟨row, by rfl, ended, fun keeps => ?_⟩
  obtain ⟨job, hjob, -⟩ := keeps _ (row ▸ List.mem_singleton_self _)
  rw [ended] at hjob
  exact nomatch hjob

end JobQueue.Postgres
