import JobQueue.Proofs.Client.Attained
import JobQueue.Proofs.Interleaving.Burial
import JobQueue.Proofs.Program.Asking

/-!
# What workers and clients fill a store with

The calls of many workers and clients interleave as they like, and still the store is filled by
nothing but checked submissions and records of its own jobs. Only clients put jobs in, and what they
put in they made of a submission that passed their check; a worker makes the record of a job that it
failed, and a job that failed stays as it is.

* `Program.FilesOnly`: a program puts in only what passed a check. So does every errand of a client
  (`Errand.filesOnly`).
* `System.attained`: every run from the empty store leaves an attained one.
-/

namespace JobQueue

variable {handler ι κ α β : Type}

/-! ## Programs that put jobs in -/

/-- A job that some client made of a submission that passed its check. -/
def Job.IsFiled (job : Job) : Prop :=
  ∃ (c : Client) (r : NewJob) (a : Client.Admitted) (id : Uuid) (now : Instant),
    c.check r = .ok a ∧ job = c.stamp a id now

/-- Whether an effect puts in nothing but what passed a check. -/
def Effect.Files : Effect handler → Prop
  | .call (.insert job) => job.IsFiled
  | _ => True

/-- The program puts in only what passed a check, whatever it is answered. -/
abbrev Program.FilesOnly (p : Program handler α) : Prop := p.AsksOnly Effect.Files

open Program

open QueueProgram

namespace Client

theorem insert_filesOnly {job : Job} (filed : job.IsFiled) :
    (insert job : QueueProgram handler Job).run.FilesOnly := by
  refine asksOnly_request_bind filed fun answer => ?_
  rcases answer with e | stored
  · dsimp only
    split
    · exact asksOnly_request_bind trivial fun _ => asksOnly_done _
    · exact asksOnly_done _
  · exact asksOnly_done _

/-- What a client submits passed its check. -/
theorem enqueue_filesOnly (c : Client) (r : NewJob) :
    (c.enqueue r : QueueProgram handler Job).run.FilesOnly := by
  refine AsksOnly.within ?_ trivial trivial
  cases passed : c.check r with
  | error e => exact asksOnly_done _
  | ok admitted =>
    refine asksOnly_request_bind trivial fun now => asksOnly_request_bind trivial fun id => ?_
    have filed : (c.stamp admitted id now).IsFiled := ⟨c, r, admitted, id, now, passed, rfl⟩
    refine asksOnly_bind (insert_filesOnly filed) fun job => ?_
    refine asksOnly_bind (asksOnly_lift ?_) fun _ => asksOnly_done _
    exact (asksOnly_request trivial).bind fun _ => asksOnly_request trivial

theorem getJob_filesOnly (id : Uuid) :
    (getJob id : QueueProgram handler Job).run.FilesOnly := by
  refine asksOnly_call_bind trivial fun answer => ?_
  cases answer <;> exact asksOnly_done _

theorem snapshot_filesOnly (c : Client) :
    (c.snapshot : QueueProgram handler Snapshot).run.FilesOnly := by
  refine asksOnly_request_bind trivial fun now => asksOnly_call_bind trivial fun snapshot => ?_
  split
  · exact asksOnly_call_bind trivial fun _ => asksOnly_done _
  · exact asksOnly_done _

end Client

namespace DeadLetterQueue

theorem get_filesOnly (id : Uuid) :
    (get id : QueueProgram handler DeadLetter).run.FilesOnly := by
  refine asksOnly_call_bind trivial fun answer => ?_
  cases answer <;> exact asksOnly_done _

/-- A record is submitted again through the check of the client. -/
theorem retry_filesOnly (q : DeadLetterQueue) (id : Uuid) :
    (q.retry id : QueueProgram handler Resubmission).run.FilesOnly := by
  refine AsksOnly.within ?_ trivial trivial
  refine asksOnly_bind (get_filesOnly id) fun record => ?_
  refine asksOnly_bind (q.client.enqueue_filesOnly _) fun job => ?_
  refine asksOnly_request_bind trivial fun now => asksOnly_call_bind trivial fun answer => ?_
  cases answer with
  | none => exact asksOnly_done _
  | some record => exact asksOnly_request_bind trivial fun _ => asksOnly_done _

theorem delete_filesOnly (id : Uuid) :
    (delete id : QueueProgram handler Unit).run.FilesOnly := by
  refine asksOnly_bind (AsksOnly.within (asksOnly_request trivial) trivial trivial) fun deleted => ?_
  cases deleted with
  | true => exact asksOnly_lift (asksOnly_request trivial)
  | false => exact asksOnly_done _

theorem prune_filesOnly (days : UInt32) :
    (prune days : QueueProgram handler UInt64).run.FilesOnly := by
  refine asksOnly_request_bind trivial fun now => ?_
  split
  · exact asksOnly_request_bind trivial fun _ => asksOnly_done _
  · refine asksOnly_bind (AsksOnly.within (asksOnly_request trivial) trivial trivial) fun removed => ?_
    refine asksOnly_bind (asksOnly_lift ?_) fun _ => asksOnly_done _
    unfold reportPruned
    split
    all_goals exact (asksOnly_request trivial).bind fun _ => asksOnly_request trivial

end DeadLetterQueue

/-- Whatever a client has to do, it puts in only what passed a check. -/
theorem Errand.filesOnly (errand : Errand) :
    (errand.program : Program handler Ending).FilesOnly := by
  have mapped {γ : Type} {p : Program handler γ} (h : p.FilesOnly) :
      ((fun _ => Ending.errand) <$> p : Program handler Ending).FilesOnly := by
    rw [map_eq_pure_bind]
    exact h.bind fun _ => asksOnly_done _
  cases errand with
  | enqueue c r => exact mapped (c.enqueue_filesOnly r)
  | getJob id => exact mapped (Client.getJob_filesOnly id)
  | snapshot c => exact mapped c.snapshot_filesOnly
  | retry q id => exact mapped (q.retry_filesOnly id)
  | getRecord id => exact mapped (DeadLetterQueue.get_filesOnly id)
  | deleteRecord id => exact mapped (DeadLetterQueue.delete_filesOnly id)
  | prune days => exact mapped (DeadLetterQueue.prune_filesOnly days)
  | listJobs | listRecords | countRecords => exact mapped (asksOnly_request trivial)

/-! ## Calls -/

variable [DecidableEq ι] [DecidableEq κ] {crew : ι → Worker handler}

/-- A permitted call leaves an attained store, if a job that it puts in passed a check: the record
that a worker makes is one of a job that it failed, which is still there. -/
theorem Ledger.Reached.attained_called {l : Ledger ι κ} (reached : Reached crew l)
    (before : l.store.Attained) {a : Actor ι κ} {c : Call}
    (permitted : a.permits crew (phase l.history a) c)
    (filed : ∀ job, c = .insert job → job.IsFiled) : (l.store.perform c).2.Attained := by
  by_cases puts : c.putsNew = true
  · cases c <;> simp only [Call.putsNew, Bool.false_eq_true] at puts
    case insert job =>
      obtain ⟨client, r, admitted, id, now, passed, rfl⟩ := filed job rfl
      exact before.submitted passed (reached.fresh.new_of_insert permitted) now
    case insertDeadLetter record =>
      obtain ⟨⟨i, rfl⟩, -, job, rest, owed, copy⟩ := Actor.owed_of_insertDeadLetter permitted
      obtain ⟨done, split, -⟩ := reached.buried.owed i
      have failed : job ∈ failures l.history := by
        refine (failuresOf_sublist l.history (.worker i)).subset ?_
        rw [split, owed]
        exact List.mem_append_right _ List.mem_cons_self
      have stored := Store.mem_of_find? ((reached.recorded.mem_iff job).mp failed).1
      rw [copy.eq_ofJob]
      exact before.recorded stored (.refl job) record.id record.movedAt
  · exact before.called (by simpa using puts)

/-! ## Systems -/

namespace System

variable {s t : System handler ι κ} {actor : Actor ι κ}

/-- All clients are at programs that put in only what passed a check. -/
def Files (s : System handler ι κ) : Prop :=
  ∀ k program, s.threads (.client k) = some program → program.FilesOnly

omit [DecidableEq ι] [DecidableEq κ] in
theorem files_opening (start : Store) : (opening start : System handler ι κ).Files := by
  intro k program thread
  cases thread

/-- When one actor changes its program, the other clients are where they were. -/
theorem files_update {threads : Actor ι κ → Option (Program handler Ending)}
    {thread : Option (Program handler Ending)}
    (others : ∀ k program, threads (.client k) = some program → program.FilesOnly)
    (own : ∀ k program, actor = .client k → thread = some program → program.FilesOnly) (k : κ)
    (program : Program handler Ending)
    (h : Function.update threads actor thread (.client k) = some program) : program.FilesOnly := by
  by_cases same : actor = .client k
  · rw [same, Function.update_self] at h
    exact own k program same h
  · rw [Function.update_of_ne (Ne.symm same)] at h
    exact others k program h

/-- What a worker starts beside itself is no program of a client. -/
theorem beside_client (s : System handler ι κ) (actor : Actor ι κ) (e : Effect handler) (k : κ) :
    s.beside actor e (.client k) = s.threads (.client k) := by
  cases e with
  | startRenewal job owner =>
    cases actor with
    | worker i =>
      have other : Actor.client k ≠ .renewal i := by simp
      exact Function.update_of_ne other _ _
    | _ => rfl
  | _ => rfl

/-- Going on by one effect leaves an attained store. -/
theorem attained_resume {program : Program handler Ending} {o : Surroundings}
    (sound : s.Sound crew) (reached : Ledger.Reached crew s.toLedger) (files : s.Files)
    (before : s.store.Attained) (thread : s.threads actor = some program)
    (h : s.resume actor o program = some t) : t.Files ∧ t.store.Attained := by
  have own := sound actor
  rw [thread] at own
  cases program with
  | done ending =>
    cases h
    refine ⟨files_update files fun k next same hnext => ?_, before⟩
    -- nothing follows the program of a client by itself
    subst same
    cases own
    cases hnext
  | ask e next =>
    simp only [System.resume] at h
    split at h
    next =>
      cases h
      constructor
      · refine files_update (fun k program beside => ?_) fun k program same hnext => ?_
        · rw [beside_client] at beside
          exact files k program beside
        · subst same
          cases hnext
          exact (files k _ thread).2 _
      · cases e with
        | call c =>
          refine reached.attained_called before own.1 fun job hc => ?_
          subst hc
          cases actor with
          | client k => exact (files k _ thread).1
          | worker i => exact own.1.elim
          | renewal i => exact own.1.elim
        | _ => exact before
    next => cases h

theorem attained_step {move : Move ι κ} (sound : s.Sound crew)
    (reached : Ledger.Reached crew s.toLedger) (files : s.Files) (before : s.store.Attained)
    (h : s.step crew move = some t) : t.Files ∧ t.store.Attained := by
  -- who begins a program makes no call by that
  have started {actor : Actor ι κ} {program : Program handler Ending}
      (own : ∀ k, actor = .client k → program.FilesOnly) (h : s.start? actor program = some t) :
      t.Files ∧ t.store.Attained := by
    unfold start? at h
    split at h
    next =>
      cases h
      refine ⟨files_update files fun k other same hother => ?_, before⟩
      cases hother
      exact own k same
    next => cases h
  cases move with
  | begin i =>
    refine started (fun k same => ?_) h
    cases same
  | undertake k errand => exact started (fun _ _ => errand.filesOnly) h
  | go actor o =>
    obtain ⟨program, thread, resumed⟩ := Option.bind_eq_some_iff.mp h
    exact attained_resume sound reached files before thread resumed

/-- **Every run from the empty store leaves an attained one**, in whatever order any number of
workers and clients make their calls. -/
theorem attained {moves : List (Move ι κ)} (run : (opening .empty).run crew moves = some s) :
    s.store.Attained := by
  suffices ∀ start : System handler ι κ, start.Sound crew → Ledger.Reached crew start.toLedger →
      start.Files → start.store.Attained → start.run crew moves = some s → s.store.Attained from
    this _ (sound_opening crew .empty) .refl (files_opening .empty) .empty run
  clear run
  induction moves with
  | nil =>
    intro start _ _ _ before h
    cases h
    exact before
  | cons move moves ih =>
    intro start sound reached files before h
    obtain ⟨next, step, rest⟩ := Option.bind_eq_some_iff.mp h
    obtain ⟨sound', course⟩ := sound.step step
    obtain ⟨files', after⟩ := attained_step sound reached files before step
    exact ih next sound' (reached.trans course) files' after rest

end System

end JobQueue
