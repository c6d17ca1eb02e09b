import JobQueue.Proofs.Metrics.Conduct
import JobQueue.Proofs.Metrics.Metered
import JobQueue.Proofs.Store.Continuation
import JobQueue.Proofs.Store.Headcount

/-!
# The metrics agree with the store

What the metrics say of jobs and what a snapshot of the store says are two accounts of one history.
They agree as soon as no program is on its way: the calls that were made determine both. While
programs are on their way, the metrics lag behind by what these have still to count.

* `Booked`: the jobs in the store are as its calls left them to be counted.
* `Metered.Balanced`: what was counted and what is due come to what the calls left to be counted.
* `Metered.sound_after`: both hold after any moves.
* `Metered.metrics_agree`: so the metrics and the snapshot agree when no program runs.
-/

namespace JobQueue

variable {handler : Type}

/-- Whether the job that a call puts in finds no other one under its identifier. -/
def Deed.isFresh : Deed → Bool
  | ⟨.insert job, _, before, _⟩ => (before.find? job.id).isNone
  | _ => true

/-! ## The jobs in the store -/

/-- The jobs in a store are as these deeds left them to be counted. -/
structure Booked (s : Store) (history : List Deed) : Prop where
  unique : s.UniqueIds
  type (jobType : String) : (s.jobs.countP fun job => job.jobType = jobType) =
    (Counter.enqueued jobType).total (history.flatMap Deed.dues)
  final (jobType : String) {status : Status} (final : status.isTerminal = true) :
    (s.jobs.countP fun job => job.jobType = jobType && job.status = status) =
      (Counter.finalized jobType status.text).total (history.flatMap Deed.dues)
  released : Counter.released.total (history.flatMap Deed.dues) = (history.map Deed.releases).sum
  few : s.jobs.length ≤ history.length
  /-- A lock is taken from a job that is under way, and every job was taken up by a call. -/
  locks : (s.jobs.countP fun job => job.status = .processing) + (history.map Deed.releases).sum ≤
    history.length
  total_le (c : Counter) : c.total (history.flatMap Deed.dues) ≤
    history.length + (history.map Deed.releases).sum

namespace Booked

variable {s : Store} {history : List Deed}

theorem opening : Booked .empty [] where
  unique := Store.uniqueIds_empty
  type _ := rfl
  final _ _ _ := rfl
  released := rfl
  few := Nat.le_refl 0
  locks := Nat.le_refl 0
  total_le _ := Nat.le_refl 0

/-- One more call, which turned the jobs over. -/
theorem append (h : Booked s history) {deed : Deed} {after : Store}
    (turnover : Turnover s after.jobs deed.dues deed.releases) (unique : after.UniqueIds)
    (few : history.length < 2 ^ 64) : Booked after (history ++ [deed]) := by
  have few : s.jobs.length < 2 ^ 64 := Nat.lt_of_le_of_lt h.few few
  have dues : (history ++ [deed]).flatMap Deed.dues = history.flatMap Deed.dues ++ deed.dues := by
    simp
  have releases : ((history ++ [deed]).map Deed.releases).sum =
      (history.map Deed.releases).sum + deed.releases := by simp
  have length : (history ++ [deed]).length = history.length + 1 := by simp
  constructor
  case unique => exact unique
  case type =>
    intro jobType
    rw [dues, Counter.total_append, ← h.type]
    exact turnover.countP_type h.unique jobType
  case final =>
    intro jobType status final
    rw [dues, Counter.total_append, ← h.final jobType final]
    exact turnover.countP_final h.unique jobType final
  case released =>
    rw [dues, Counter.total_append, releases, h.released, turnover.total_released few]
  case few =>
    rw [length]
    exact Nat.le_trans (turnover.length_le h.unique) (Nat.succ_le_succ h.few)
  case locks =>
    rw [releases, length]
    have := turnover.processing_le h.unique
    have := h.locks
    omega
  case total_le =>
    intro counter
    rw [dues, Counter.total_append, releases, length]
    have := turnover.total_le few counter
    have := h.total_le counter
    omega

/-- Twice as much as there are calls is the most that is to be counted. -/
theorem total_lt (h : Booked s history) (few : history.length < 2 ^ 53) (c : Counter) :
    c.total (history.flatMap Deed.dues) < 2 ^ 64 := by
  have := h.total_le c
  have := h.locks
  omega

end Booked

/-! ## The accounts of the programs -/

namespace Account

variable {a : Account} {s : Store} {c : Call}

/-- No job was claimed yet. -/
theorem opening_fits (s : Store) : opening.Fits s := by
  intro job claimed
  cases claimed

/-- The job that was claimed last stays in the store. -/
theorem Fits.perform (fits : a.Fits s) (unique : s.UniqueIds)
    (fresh : ∀ job, c = .insert job → s.find? job.id = none) : a.Fits (s.perform c).2 := by
  intro job claimed
  obtain ⟨doc, found, type⟩ := fits job claimed
  obtain ⟨after, hafter⟩ := Store.find?_perform_some (c := c) unique found
  have change := Store.change_perform unique c job.id
  rw [found, hafter] at change
  refine ⟨after, hafter, (change.continues ?_).jobType.trans type⟩
  intro inserted
  have absent := fresh after inserted
  rw [Store.id_of_find? hafter, found] at absent
  cases absent

/-- A job that is claimed is in the store. -/
theorem Fits.called (fits : a.Fits s) (unique : s.UniqueIds)
    (fresh : ∀ job, c = .insert job → s.find? job.id = none) :
    (a.called s c).Fits (s.perform c).2 := by
  intro job treating
  rw [Account.called] at treating
  cases claimed : c.claimed? (s.perform c).1 with
  | none =>
    rw [claimed] at treating
    exact fits.perform unique fresh job treating
  | some other =>
    rw [claimed] at treating
    cases treating
    cases c <;> first
      | exact ⟨job, (Store.claimNext_eq_some claimed).1, rfl⟩
      | cases claimed

end Account

namespace Metered

variable {s : Metered handler} {a : Account} {o : Surroundings} {failure : Option QueueError}
  {e : Effect handler}

/-- Every job that was put in had an identifier of its own. -/
def Fresh (s : Metered handler) : Prop := ∀ deed ∈ s.history, deed.isFresh = true

theorem Fresh.of_step {move : Move handler} (fresh : (s.step move).Fresh) : s.Fresh :=
  fun deed mem => fresh deed ((s.history_prefix_step move).subset mem)

/-- A call that was just answered put in a job with an identifier of its own. -/
theorem Fresh.of_call {c : Call} (fresh : (s.asked none (.call c)).Fresh) :
    ∀ job, c = .insert job → s.store.find? job.id = none := by
  rintro job rfl
  exact Option.isNone_iff_eq_none.mp (fresh (.made s.store (.insert job)) (by simp [asked]))

/-! ## One effect -/

/-- The account of a program after an effect. -/
def account (s : Metered handler) (failure : Option QueueError) (a : Account) :
    Effect handler → Account
  | .call c =>
    match failure with
    | some _ => a
    | none => a.called s.store c
  | .measure m => a.measured m
  | _ => a

/-- The answer to an effect leads to the account after it. -/
theorem leads_account (fits : a.Fits s.store) (o : Surroundings) (failure : Option QueueError)
    (e : Effect handler) : e.Leads a (s.answer o failure e) (s.account failure a e) := by
  cases e with
  | call c =>
    cases failure with
    | some e => exact .inl ⟨e, rfl, rfl⟩
    | none => exact .inr ⟨s.store, fits, rfl, rfl⟩
  | _ => rfl

/-- The jobs in the store stay as they are left to be counted. -/
theorem booked_asked (h : Booked s.store s.history) (ordered : e.InOrder a)
    (fresh : (s.asked failure e).Fresh) (few : s.history.length < 2 ^ 64) :
    Booked (s.asked failure e).store (s.asked failure e).history := by
  cases e with
  | call c =>
    cases failure with
    | some e =>
      refine h.append ?_ h.unique few
      rw [Deed.dues_failed, Deed.releases_failed]
      exact .kept
    | none =>
      refine h.append (s.store.turnover_perform c fresh.of_call ?_)
        (Store.uniqueIds_perform h.unique c) few
      rintro job rfl
      exact ordered
  | _ => exact h

/-- The accounts of all others still fit the store. -/
theorem fits_asked (fits : a.Fits s.store) (unique : s.store.UniqueIds)
    (fresh : (s.asked failure e).Fresh) : a.Fits (s.asked failure e).store := by
  cases e with
  | call c =>
    cases failure with
    | some e => exact fits
    | none => exact fits.perform unique fresh.of_call
  | _ => exact fits

/-- So does the account of the program itself. -/
theorem fits_account (fits : a.Fits s.store) (unique : s.store.UniqueIds)
    (fresh : (s.asked failure e).Fresh) :
    (s.account failure a e).Fits (s.asked failure e).store := by
  cases e with
  | call c =>
    cases failure with
    | some e => exact fits
    | none => exact fits.called unique fresh.of_call
  | measure m =>
    show (a.measured m).Fits s.store
    unfold Account.measured
    split <;> exact fits
  | _ => exact fits

/-- What an effect leaves to be counted is due in the account, and what is counted is no longer. -/
theorem read_asked (ordered : e.InOrder a) (c : Counter)
    (room : c.read s.metrics + c.total a.dues < 2 ^ 64) :
    c.read (s.asked failure e).metrics + c.total (s.account failure a e).dues +
        c.total (s.history.flatMap Deed.dues) =
      c.read s.metrics + c.total a.dues +
        c.total ((s.asked failure e).history.flatMap Deed.dues) := by
  cases e with
  | call call =>
    cases failure with
    | some e => simp [asked, account, Deed.dues_failed]
    | none =>
      simp only [asked, account, Account.called, Counter.total_append, List.flatMap_append,
        List.flatMap_singleton]
      omega
  | measure m =>
    show c.read (s.metrics.record m) + c.total (a.measured m).dues + _ = _ + _ + _
    cases aside : m.isAside with
    | true =>
      have nothing := Counter.gain_of_isAside aside c
      rw [Counter.read_record (by omega), nothing, Account.measured, aside]
      rfl
    | false =>
      obtain ⟨rest, due⟩ := List.head?_eq_some_iff.mp (ordered aside)
      rw [due, Counter.total_cons] at room ⊢
      rw [Counter.read_record (by omega), Account.measured, aside, due]
      simp only [Bool.false_eq_true, ↓reduceIte, List.tail_cons, asked]
      omega
  | _ => rfl

end Metered

/-! ## The programs -/

/-- A program that runs, with its account. -/
structure Thread (handler : Type) where
  program : Program handler Ending
  account : Account

namespace Metered

variable {s : Metered handler} {threads : List (Thread handler)} {i : Nat}
  {program : Program handler Ending}

/-- What was counted and what the programs have still to count come to what the calls left to be
counted. -/
structure Balanced (s : Metered handler) (threads : List (Thread handler)) : Prop where
  programs : threads.map Thread.program = s.running
  settle : ∀ t ∈ threads, t.program.Settles (fun _ b => b.dues = []) t.account
  fit : ∀ t ∈ threads, t.account.Fits s.store
  read (c : Counter) : c.read s.metrics + c.total (threads.flatMap fun t => t.account.dues) =
    c.total (s.history.flatMap Deed.dues)

namespace Balanced

theorem opening : (Metered.opening : Metered handler).Balanced [] where
  programs := rfl
  settle := List.forall_mem_nil _
  fit := List.forall_mem_nil _
  read c := c.read_empty

/-- A program begins with nothing to count. -/
theorem started (h : s.Balanced threads)
    (settles : program.Settles (fun _ b => b.dues = []) .opening) :
    (s.started program).Balanced (threads ++ [⟨program, .opening⟩]) where
  programs := by simp [Metered.started, h.programs]
  settle := List.forall_mem_append.mpr ⟨h.settle, List.forall_mem_singleton.mpr settles⟩
  fit := List.forall_mem_append.mpr
    ⟨h.fit, List.forall_mem_singleton.mpr (Account.opening_fits s.store)⟩
  read c := by
    have nothing : Account.opening.dues = [] := rfl
    rw [List.flatMap_append, List.flatMap_singleton, nothing, List.append_nil]
    exact h.read c

/-- The program at a place stands between others. -/
theorem split (h : s.Balanced threads) (running : s.running[i]? = some program) :
    ∃ front account back, threads = front ++ ⟨program, account⟩ :: back ∧ front.length = i := by
  rw [← h.programs, List.getElem?_map, Option.map_eq_some_iff] at running
  obtain ⟨⟨program, account⟩, at_i, rfl⟩ := running
  obtain ⟨lt, at_i⟩ := List.getElem?_eq_some_iff.mp at_i
  refine ⟨threads.take i, account, threads.drop (i + 1), ?_, by simp; omega⟩
  rw [← at_i, List.getElem_cons_drop, List.take_append_drop]

variable {front back : List (Thread handler)} {a : Account}

/-- A program comes to its end, and has nothing more to count. -/
theorem ended {ending : Ending} (h : s.Balanced (front ++ ⟨.done ending, a⟩ :: back))
    (o : Surroundings) (failure : Option QueueError) :
    (s.resumed front.length o failure (.done ending)).Balanced (front ++ back) := by
  obtain ⟨programs, settle, fit, read⟩ := h
  rw [List.forall_mem_append, List.forall_mem_cons] at settle fit
  have paid : a.dues = [] := settle.2.1
  constructor
  case programs =>
    show (front ++ back).map Thread.program = s.running.eraseIdx front.length
    rw [← programs]
    simp [List.eraseIdx_append_of_length_le]
  case settle => exact List.forall_mem_append.mpr ⟨settle.1, settle.2.2⟩
  case fit => exact List.forall_mem_append.mpr ⟨fit.1, fit.2.2⟩
  case read =>
    intro c
    have counts := read c
    simp only [List.flatMap_append, List.flatMap_cons, paid, List.nil_append] at counts ⊢
    exact counts

/-- A program goes on by one effect, and what it does to the store it has still to count. -/
theorem asked {e : Effect handler} {next : e.Answer → Program handler Ending}
    (h : s.Balanced (front ++ ⟨.ask e next, a⟩ :: back)) (booked : Booked s.store s.history)
    (few : s.history.length < 2 ^ 53) (o : Surroundings) (failure : Option QueueError)
    (fresh : (s.asked failure e).Fresh) :
    (s.resumed front.length o failure (.ask e next)).Balanced
      (front ++ ⟨next (s.answer o failure e), s.account failure a e⟩ :: back) := by
  obtain ⟨programs, settle, fit, read⟩ := h
  rw [List.forall_mem_append, List.forall_mem_cons] at settle fit
  have others {t : Thread handler} (fits : t.account.Fits s.store) :
      t.account.Fits (s.asked failure e).store := fits_asked fits booked.unique fresh
  constructor
  case programs =>
    show List.map Thread.program (front ++ _ :: back) = s.running.set front.length _
    rw [← programs]
    simp
  case settle =>
    rw [List.forall_mem_append, List.forall_mem_cons]
    exact ⟨settle.1, settle.2.1.2 _ _ (leads_account fit.2.1 o failure e), settle.2.2⟩
  case fit =>
    rw [List.forall_mem_append, List.forall_mem_cons]
    exact ⟨fun t mem => others (fit.1 t mem), fits_account fit.2.1 booked.unique fresh,
      fun t mem => others (fit.2.2 t mem)⟩
  case read =>
    intro c
    have counts := read c
    have most := booked.total_lt few c
    simp only [List.flatMap_append, List.flatMap_cons, Counter.total_append] at counts ⊢
    have step := @read_asked _ s a failure e settle.2.1.1 c (by omega)
    show c.read (s.asked failure e).metrics + _ =
      c.total ((s.asked failure e).history.flatMap Deed.dues)
    omega

end Balanced

/-! ## Runs -/

/-- The store and the metrics are in order. -/
structure Sound (s : Metered handler) : Prop where
  booked : Booked s.store s.history
  balanced : ∃ threads, s.Balanced threads

theorem Sound.started (h : s.Sound)
    (settles : program.Settles (fun _ b => b.dues = []) .opening) : (s.started program).Sound :=
  ⟨h.booked, let ⟨_, balanced⟩ := h.balanced; ⟨_, balanced.started settles⟩⟩

/-- A move keeps everything in order. -/
theorem Sound.step (h : s.Sound) {move : Move handler} (fresh : (s.step move).Fresh)
    (few : s.history.length < 2 ^ 53) : (s.step move).Sound := by
  cases move with
  | undertake errand => exact h.started (errand.settles rfl)
  | iterate w => exact h.started (Program.settles_map.mpr (Worker.runOnce_settles rfl))
  | renew job owner => exact h.started (renewalOf_isAside job owner _ _ fun _ => rfl)
  | go i o failure =>
    rw [Metered.step] at fresh ⊢
    split at fresh
    next program running =>
      obtain ⟨threads, balanced⟩ := h.balanced
      obtain ⟨front, account, back, rfl, rfl⟩ := balanced.split running
      cases program with
      | done ending => exact ⟨h.booked, _, balanced.ended o failure⟩
      | ask e next =>
        have ordered : e.InOrder account :=
          (balanced.settle _ (List.mem_append_right front List.mem_cons_self)).1
        exact ⟨booked_asked h.booked ordered fresh (by omega), _,
          balanced.asked h.booked few o failure fresh⟩
    next => exact h

/-- Any moves keep everything in order. -/
theorem sound_after (moves : List (Move handler)) (fresh : (after moves).Fresh)
    (few : (after moves).history.length < 2 ^ 53) : (after moves).Sound := by
  induction moves using List.reverseRecOn with
  | nil => exact ⟨.opening, _, .opening⟩
  | append_singleton moves move ih =>
    rw [after, List.foldl_append, ← after] at fresh few ⊢
    have few : (after moves).history.length < 2 ^ 53 :=
      Nat.lt_of_le_of_lt ((after moves).history_prefix_step move).length_le few
    exact (ih fresh.of_step few).step fresh few

/-! ## When no program runs -/

/-- The metrics say of jobs what a snapshot of the store says, and what the calls came to. -/
structure Agrees (s : Metered handler) (now : Instant) (jobType : String) : Prop where
  enqueued : s.metrics.enqueuedOf jobType =
    ((s.store.snapshot now).countsOf jobType).total.toNat
  succeeded : s.metrics.finalizedOf jobType "succeeded" =
    ((s.store.snapshot now).countsOf jobType).succeeded.toNat
  failed : s.metrics.finalizedOf jobType "failed" =
    ((s.store.snapshot now).countsOf jobType).failed.toNat
  /-- So many calls scheduled a job of this type to be tried again. -/
  retrying : s.metrics.finalizedOf jobType "retrying" = s.history.countP (Deed.retries jobType)
  /-- So many ends of attempts at jobs of this type were refused. -/
  lost : s.metrics.finalizedOf jobType "lock_lost" = s.history.countP (Deed.isRefused jobType)
  /-- So many locks were taken from jobs that let them run out. -/
  released : s.metrics.released.toNat = (s.history.map Deed.releases).sum

/-- What is counted one by one comes to the number of calls that leave it to be counted. -/
theorem total_flatMap {c : Counter} {p : Deed → Bool}
    (once : ∀ deed, c.total deed.dues = if p deed then 1 else 0) (history : List Deed) :
    c.total (history.flatMap Deed.dues) = history.countP p := by
  induction history with
  | nil => rfl
  | cons deed rest ih =>
    rw [List.flatMap_cons, Counter.total_append, List.countP_cons, ih, once, Nat.add_comm]

/-- **The metrics agree with the store** whenever no program is on its way, after any moves of
clients and workers in which every job that is put in has an identifier of its own. -/
theorem metrics_agree (moves : List (Move handler)) (fresh : (after moves).Fresh)
    (few : (after moves).history.length < 2 ^ 53) (rest : (after moves).running = [])
    (now : Instant) (jobType : String) : (after moves).Agrees now jobType := by
  obtain ⟨booked, threads, balanced⟩ := sound_after moves fresh few
  have none : threads = [] := List.map_eq_nil_iff.mp (balanced.programs.trans rest)
  have read (c : Counter) : c.read (after moves).metrics =
      c.total ((after moves).history.flatMap Deed.dues) := by
    rw [← balanced.read c, none]
    rfl
  -- The snapshot counts in words, which are wide enough for the jobs that there are.
  have word (p : Job → Bool) : (UInt64.ofNat ((after moves).store.jobs.countP p)).toNat =
      (after moves).store.jobs.countP p := by
    have most := List.countP_le_length (p := p) (l := (after moves).store.jobs)
    have := booked.few
    rw [UInt64.toNat_ofNat']
    exact Nat.mod_eq_of_lt (by omega)
  have ended {status : Status} (final : status.isTerminal = true) :
      (after moves).metrics.finalizedOf jobType status.text =
        (((after moves).store.snapshot now).countsOf jobType |>.of status).toNat := by
    rw [Store.of_snapshot, word, booked.final jobType final]
    exact read (.finalized jobType status.text)
  constructor
  case enqueued =>
    rw [Store.total_snapshot, word, booked.type]
    exact read (.enqueued jobType)
  case succeeded => exact @ended .succeeded rfl
  case failed => exact @ended .failed rfl
  case retrying =>
    rw [← total_flatMap fun deed => deed.total_retrying jobType]
    exact read (.finalized jobType "retrying")
  case lost =>
    rw [← total_flatMap fun deed => deed.total_lost jobType]
    exact read (.finalized jobType "lock_lost")
  case released => exact (read .released).trans booked.released

/-! ### An evening with a late worker

The store fails the first iteration of a worker. In the next one, the worker claims the one job
there is, for its first attempt of two, and lets its lock run out. Another worker takes the lock
back and claims the job. Its handler panics, so that the job fails, and the first worker comes too late.
-/

namespace Evening

open LateWorker

def worker (name : String) : Worker Unit := ⟨name, .standard, ⟨[("mail", ())]⟩⟩

/-- Several steps of one program, in surroundings of which only the time and the end of the handler
matter. -/
def go (n i : Nat) (time : Instant) (result : HandlerResult) (failure : Option QueueError) :
    List (Move Unit) :=
  List.replicate n (.go i ⟨time, 0, .ofNat 1, result, true, none⟩ failure)

def moves : List (Move Unit) :=
  .undertake (.enqueue ⟨.standard, false⟩ ⟨"mail", .object [], some 2, none⟩) ::
    go 20 0 morning (.ok .null) none ++
  .iterate (worker "a") :: go 20 0 morning (.ok .null) (some (.store "down")) ++
  .iterate (worker "a") :: go 9 0 morning (.ok .null) none ++
  .iterate (worker "b") :: go 40 1 evening (.error (.panic none)) none ++
  go 40 0 evening (.ok .null) none

end Evening

theorem metrics_agree_evening :
    (after Evening.moves).Agrees LateWorker.evening "mail" ∧
      (after Evening.moves).metrics.finalized =
        [(("mail", "failed"), 1), (("mail", "lock_lost"), 1)] ∧
      (after Evening.moves).metrics.released = 1 :=
  ⟨metrics_agree Evening.moves (by unfold Fresh; decide +kernel) (by decide +kernel)
    (List.isEmpty_iff.mp (by decide +kernel)) _ _, by decide +kernel, by decide +kernel⟩

end Metered

end JobQueue
