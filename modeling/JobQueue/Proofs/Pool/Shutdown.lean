import JobQueue.Proofs.Interleaving.System
import JobQueue.Proofs.Pool.System
import Mathlib.Data.List.Induction

/-!
# Starting once, and stopping

A pool is started once at most, and not at all once its shutdown signal was given. From then on each
of its tasks makes at most the one claim that it was about to make.

* `Gate.Sound` is what starts and shutdowns keep. It rests on the lock, and on a pool having tasks:
  a start that was admitted has the lock, or there are tasks, or the signal was given.
* `PoolSystem.Heedful`: every task heeds the signal, as `Program.Heeds` says, with the leave that
  follows from what it did.
* `PoolSystem.starts_once_and_stops` puts both together.
-/

namespace JobQueue

variable {handler : Type}

/-! ## The gate -/

/-- A pool that was built has something to do. -/
theorem PoolPlan.duties_ne_nil {plan : PoolPlan handler} {name : String} {p : Pool handler}
    (built : plan.build name = .ok p) : p.duties ≠ [] := by
  unfold build at built
  split at built
  · cases built
  next valid =>
    have workers : plan.settings.concurrency ≠ 0 := by
      intro none
      rw [Settings.broken?, if_pos none] at valid
      cases valid
    have settings : p.settings = plan.settings := by
      split at built
      · cases built
      · split at built <;> cases built
        rfl
    have positive : p.settings.concurrency.toNat ≠ 0 := by
      rw [settings]
      exact fun none => workers (UInt64.toNat_inj.mp none)
    simp [Pool.duties, Pool.workerIds, positive]

namespace Gate

variable {g : Gate handler} {k j : Nat}

@[simp] theorem starts_started (stage : Starting handler) (holder : Option Nat) (k' : Nat) :
    (g.started k stage holder).starts k' = if k' = k then stage else g.starts k' :=
  Function.update_apply ..

/-- What is true of starts and shutdowns at any time. -/
structure Sound (g : Gate handler) : Prop where
  holds : ∀ k, (g.starts k).holdsLock = true ↔ g.holder = some k
  unique : ∀ k k', (g.starts k).isAdmitted = true → (g.starts k').isAdmitted = true → k = k'
  /-- A start that makes tasks has one to make, or has made one. -/
  spawning : ∀ k rest, g.starts k = .spawning rest → rest ≠ [] ∨ g.state.tasks ≠ []
  /-- Only a shutdown takes the tasks away. -/
  kept : ∀ k, g.starts k = .answered (.ok ()) →
    g.state.tasks ≠ [] ∨ g.state.signal.isGiven = true
  flag : ∀ j, g.stops j ≠ .before → g.state.signal.isGiven = true

theorem sound_opening : (opening : Gate handler).Sound where
  holds _ := ⟨nofun, nofun⟩
  unique _ _ := nofun
  spawning _ _ := nofun
  kept _ := nofun
  flag _ begun := absurd rfl begun

/-- A start goes on, and takes the lock or gives it back, if at all. -/
theorem Sound.started (h : g.Sound) {stage : Starting handler} {holder : Option Nat}
    (others : ∀ k', k' ≠ k → (g.holder = some k' ↔ holder = some k'))
    (holds : stage.holdsLock = true ↔ holder = some k)
    (alone : stage.isAdmitted = true → ∀ k', (g.starts k').isAdmitted = true → k' = k)
    (spawning : ∀ rest, stage = .spawning rest → rest ≠ [] ∨ g.state.tasks ≠ [])
    (kept : stage = .answered (.ok ()) → g.state.tasks ≠ []) :
    (g.started k stage holder).Sound where
  holds k' := by
    rw [starts_started]
    split
    next heq =>
      rw [heq]
      exact holds
    next hne => exact (h.holds k').trans (others k' hne)
  unique k₁ k₂ := by
    rw [starts_started, starts_started]
    split <;> split
    next h₁ h₂ => exact fun _ _ => h₁.trans h₂.symm
    next h₁ _ => exact fun admitted admitted' => h₁.trans (alone admitted k₂ admitted').symm
    next _ h₂ => exact fun admitted admitted' => (alone admitted' k₁ admitted).trans h₂.symm
    next => exact h.unique k₁ k₂
  spawning k' rest := by
    rw [starts_started]
    split
    · exact spawning rest
    · exact h.spawning k' rest
  kept k' := by
    rw [starts_started]
    split
    · exact fun through => .inl (kept through)
    · exact h.kept k'
  flag := h.flag

/-- A shutdown goes on. It takes the tasks when the lock is free. -/
theorem Sound.stopped (h : g.Sound) {stage : Stopping} {state : PoolState}
    (given : state.signal.isGiven = true) (tasks : state.tasks = g.state.tasks ∨ g.holder = none) :
    (g.stopped j stage state).Sound where
  holds := h.holds
  unique := h.unique
  spawning k rest spawns := by
    rcases tasks with same | free
    · exact (h.spawning k rest spawns).imp_right fun some => same ▸ some
    · have held := (h.holds k).mp (by rw [show g.starts k = _ from spawns]; rfl)
      rw [free] at held
      cases held
  kept _ _ := .inr given
  flag _ _ := given

/-- A start makes a task. -/
theorem Sound.spawned (h : g.Sound) {d : Pool.Duty handler} {rest : List (Pool.Duty handler)}
    (spawns : g.starts k = .spawning (d :: rest)) (task : Nat) : (g.spawned k rest task).Sound := by
  have some : g.state.tasks ++ [task] ≠ [] := by simp
  have tasked : ({ g with state := { g.state with tasks := g.state.tasks ++ [task] } } :
      Gate handler).Sound :=
    ⟨h.holds, h.unique, fun _ _ _ => .inr some, fun _ _ => .inl some, h.flag⟩
  have held := (h.holds k).mp (by rw [spawns]; rfl)
  refine tasked.started (fun _ _ => .rfl) ⟨fun _ => held, fun _ => rfl⟩ (fun _ k' admitted => ?_)
    (fun _ _ => .inr some) nofun
  exact h.unique k' k admitted (by rw [spawns]; rfl)

/-- Only a start that has the lock is admitted where a start would be admitted. -/
theorem Sound.holder_of_admits (h : g.Sound) (admits : g.state.admitsStart = .ok ())
    (admitted : (g.starts k).isAdmitted = true) : g.holder = some k := by
  obtain ⟨none, notGiven⟩ := PoolState.admitsStart_eq_ok.mp admits
  cases stage : g.starts k with
  | spawning rest => exact (h.holds k).mp (by rw [stage]; rfl)
  | answered result =>
    rw [stage] at admitted
    rcases result with e | _
    · cases admitted
    · rcases h.kept k stage with some | given
      · exact absurd none some
      · rw [notGiven] at given
        cases given
  | before | waiting | holding =>
    rw [stage] at admitted
    cases admitted

end Gate

namespace PoolSystem

variable {p : Pool handler} {s u : PoolSystem handler}

theorem toGate_resume (i : Nat) (answers : (e : Effect handler) → e.Answer)
    (t : Pool.Task handler) : (s.resume i answers t).toGate = s.toGate := by
  unfold resume
  split <;> rfl

/-- Every move leaves the gate sound. -/
theorem Step.sound (hstep : Step p s u) (duties : p.duties ≠ []) (h : s.toGate.Sound) :
    u.toGate.Sound := by
  cases hstep with
  | @begun k before =>
    have free : ¬s.holder = some k := fun held => by
      have := (h.holds k).mpr held
      rw [before] at this
      cases this
    exact h.started (fun _ _ => .rfl) ⟨nofun, fun held => absurd held free⟩ nofun nofun nofun
  | @acquired k waiting free =>
    refine h.started (fun k' hne => ?_) ⟨fun _ => rfl, fun _ => rfl⟩ nofun nofun nofun
    simp [free, hne.symm]
  | @admitted k holding admits =>
    have held := (h.holds k).mp (by rw [holding]; rfl)
    refine h.started (fun _ _ => .rfl) ⟨fun _ => held, fun _ => rfl⟩ (fun _ k' admitted => ?_) ?_
      nofun
    · have held' := h.holder_of_admits admits admitted
      exact Option.some_inj.mp (held'.symm.trans held)
    · rintro rest ⟨⟩
      exact .inl duties
  | @refused k e holding refuses =>
    have held := (h.holds k).mp (by rw [holding]; rfl)
    refine h.started (fun k' hne => ?_) ⟨nofun, nofun⟩ nofun nofun nofun
    simp [held, hne.symm]
  | spawned spawns => exact h.spawned spawns _
  | @finished k spawns =>
    have held := (h.holds k).mp (by rw [spawns]; rfl)
    refine h.started (fun k' hne => ?_) ⟨nofun, nofun⟩ (fun _ k' admitted => ?_) nofun fun _ => ?_
    · simp [held, hne.symm]
    · exact h.unique k' k admitted (by rw [spawns]; rfl)
    · exact (h.spawning k [] spawns).resolve_left (absurd rfl)
  | flagSet before => exact h.stopped rfl (.inl rfl)
  | @notified j flagSet => exact h.stopped (h.flag j (by rw [flagSet]; nofun)) (.inl rfl)
  | @taken j notified free => exact h.stopped (h.flag j (by rw [notified]; nofun)) (.inr free)
  | resumed runs answers =>
    rw [toGate_resume]
    exact h
  | fallen => exact h

end PoolSystem

/-! ## What a task has done -/

/-- If this is a look at the signal, it finds the signal given. -/
def Effect.FindsGiven : (e : Effect handler) → e.Answer → Prop
  | .isShuttingDown, given => given = true
  | _, _ => True

namespace Doing

/-- Whether this is a claim of a task. -/
def isClaimOf (i : Nat) : Doing → Bool
  | .called task c => task = i && c.isClaim
  | .looked _ _ => false

/-- Whether a task has leave to claim afterwards. -/
def leave (i : Nat) (leave : Bool) : Doing → Bool
  | .looked task given => if task = i then !given else leave
  | .called task c => if task = i then leave && !c.isClaim else leave

/-- How often a task claimed. -/
def claimsOf (i : Nat) (history : List Doing) : Nat := history.countP (isClaimOf i)

/-- Whether a task has leave to claim after all this. -/
def leaveOf (i : Nat) (history : List Doing) : Bool := history.foldl (leave i) false

variable {i : Nat} {history : List Doing}

theorem claimsOf_append (later : List Doing) :
    claimsOf i (history ++ later) = claimsOf i history + claimsOf i later := List.countP_append ..

/-- A task that has leave to claim has found the signal not given, and has not claimed since. -/
theorem exists_look (h : leaveOf i history = true) :
    ∃ past since, history = past ++ .looked i false :: since ∧ claimsOf i since = 0 := by
  induction history using List.reverseRecOn with
  | nil => cases h
  | append_singleton history last ih =>
    rw [leaveOf, List.foldl_append, ← leaveOf] at h
    have later (unclaimed : last.isClaimOf i = false) (before : leaveOf i history = true) :
        ∃ past since, history ++ [last] = past ++ .looked i false :: since ∧
          claimsOf i since = 0 := by
      obtain ⟨past, since, rfl, none⟩ := ih before
      refine ⟨past, since ++ [last], by simp, ?_⟩
      rw [claimsOf_append, none]
      simp [claimsOf, unclaimed]
    cases last with
    | looked task given =>
      simp only [List.foldl_cons, List.foldl_nil, leave] at h
      split at h
      next own =>
        subst own
        cases given with
        | true => cases h
        | false => exact ⟨history, [], rfl, rfl⟩
      next => exact later rfl h
    | called task c =>
      simp only [List.foldl_cons, List.foldl_nil, leave] at h
      split at h
      next own =>
        obtain ⟨before, unclaimed⟩ := Bool.and_eq_true_iff.mp h
        have unclaimed : c.isClaim = false := by simpa using unclaimed
        exact later (by simp [isClaimOf, unclaimed]) before
      next other => exact later (by simp [isClaimOf, other]) h

variable {e : Effect handler}

/-- The leave that a task has follows from its effects. -/
theorem leaveOf_append_own (answer : e.Answer) :
    leaveOf i (history ++ ofEffect i e answer) = e.leaveAfter (leaveOf i history) answer := by
  rw [leaveOf, List.foldl_append, ← leaveOf]
  cases e <;> simp [ofEffect, leave, Effect.leaveAfter]

theorem leaveOf_append_other {j : Nat} (other : j ≠ i) (answer : e.Answer) :
    leaveOf i (history ++ ofEffect j e answer) = leaveOf i history := by
  rw [leaveOf, List.foldl_append, ← leaveOf]
  cases e <;> simp [ofEffect, leave, other]

theorem claimsOf_other {j : Nat} (other : j ≠ i) (answer : e.Answer) :
    claimsOf i (ofEffect j e answer) = 0 := by
  cases e <;> simp [claimsOf, ofEffect, isClaimOf, other]

/-- Once the signal is given, a task that heeds it uses up the leave that it has, and gets no new
one. -/
theorem claimsOf_own {leave : Bool} {answer : e.Answer} (heedful : e.IsHeedful leave)
    (given : e.FindsGiven answer) :
    claimsOf i (ofEffect i e answer) + (e.leaveAfter leave answer).toNat ≤ leave.toNat := by
  cases e with
  | isShuttingDown =>
    obtain rfl : answer = true := given
    simp [claimsOf, ofEffect, isClaimOf, Effect.leaveAfter]
  | call c =>
    cases claims : c.isClaim with
    | true =>
      have had : leave = true := heedful claims
      simp [claimsOf, ofEffect, isClaimOf, Effect.leaveAfter, claims, had]
    | false => simp [claimsOf, ofEffect, isClaimOf, Effect.leaveAfter, claims]
  | _ => simp [claimsOf, ofEffect, Effect.leaveAfter]

end Doing

namespace PoolSystem

open Program

variable {p : Pool handler} {s u : PoolSystem handler} {i : Nat}

@[simp] theorem running_went (next : Option (Pool.Task handler)) (done : List Doing) (j : Nat) :
    (s.went i next done).running j = if j = i then next else s.running j :=
  Function.update_apply ..

@[simp] theorem history_went (next : Option (Pool.Task handler)) (done : List Doing) :
    (s.went i next done).history = s.history ++ done := rfl

/-- The tasks heed the signal with the leave that they have, and those that are not made yet have
none. -/
structure Heedful (s : PoolSystem handler) : Prop where
  heeds : ∀ i t, s.running i = some t → t.program.Heeds Spent (Doing.leaveOf i s.history)
  ahead : ∀ i, s.made ≤ i → s.running i = none ∧ Doing.leaveOf i s.history = false

theorem heedful_opening : (opening : PoolSystem handler).Heedful where
  heeds _ _ := nofun
  ahead _ _ := ⟨rfl, rfl⟩

/-- A task that was just made heeds the signal without leave. -/
theorem opening_heeds (d : Pool.Duty handler) :
    (Pool.Task.opening d).program.Heeds Spent false :=
  d.opening_isPlain.heeds_bind fun _ => d.turn_heeds

/-- A task goes on, and the others do nothing meanwhile. -/
theorem Heedful.went (h : s.Heedful) {t : Pool.Task handler} (runs : s.running i = some t)
    {next : Option (Pool.Task handler)} {done : List Doing}
    (heeds : ∀ t, next = some t → t.program.Heeds Spent (Doing.leaveOf i (s.history ++ done)))
    (others : ∀ j, j ≠ i → Doing.leaveOf j (s.history ++ done) = Doing.leaveOf j s.history) :
    (s.went i next done).Heedful where
  heeds j t := by
    rw [running_went]
    split
    next heq => exact heq ▸ heeds t
    next hne =>
      rw [history_went, others j hne]
      exact h.heeds j t
  ahead j made := by
    have hne : j ≠ i := by
      rintro rfl
      rw [(h.ahead j made).1] at runs
      cases runs
    rw [running_went, if_neg hne, history_went, others j hne]
    exact h.ahead j made

theorem Heedful.fallen (h : s.Heedful) {t : Pool.Task handler} (runs : s.running i = some t) :
    (s.went i none []).Heedful :=
  h.went runs nofun fun _ _ => by rw [List.append_nil]

theorem Heedful.resume (h : s.Heedful) {t : Pool.Task handler} (runs : s.running i = some t)
    (answers : (e : Effect handler) → e.Answer) : (s.resume i answers t).Heedful := by
  have heeds := h.heeds i t runs
  rcases t with ⟨duty, turn | ⟨e, next⟩⟩
  · cases turn with
    | stop => exact h.fallen runs
    | again =>
      refine h.went runs ?_ fun _ _ => by rw [List.append_nil]
      rintro t ⟨⟩
      -- a turn ends without leave, and the next one begins so
      have spent : Doing.leaveOf i s.history = false := heeds
      rw [List.append_nil, spent]
      exact duty.turn_heeds
  · refine h.went runs ?_ fun j hne => Doing.leaveOf_append_other hne.symm _
    rintro t ⟨⟩
    rw [Doing.leaveOf_append_own]
    exact heeds.2 _

theorem Step.heedful (hstep : Step p s u) (h : s.Heedful) : u.Heedful := by
  cases hstep with
  | @spawned k d rest spawns =>
    refine ⟨fun i t => ?_, fun i made => ?_⟩
    · show Function.update s.running s.made _ i = some t → _
      rw [Function.update_apply]
      split
      next heq =>
        rintro ⟨⟩
        show (Pool.Task.opening d).program.Heeds Spent (Doing.leaveOf i s.history)
        rw [heq, (h.ahead s.made (Nat.le_refl _)).2]
        exact opening_heeds d
      next => exact h.heeds i t
    · have made : s.made + 1 ≤ i := made
      have hne : i ≠ s.made := by omega
      show Function.update s.running s.made _ i = none ∧ _
      rw [Function.update_of_ne hne]
      exact h.ahead i (by omega)
  | resumed runs answers => exact h.resume runs answers
  | fallen runs => exact h.fallen runs
  | begun | acquired | admitted | refused | finished | flagSet | notified | taken =>
    exact ⟨h.heeds, h.ahead⟩

/-! ## Once the signal is given -/

theorem findsGiven_answer (given : s.state.signal.isGiven = true)
    (answers : (e : Effect handler) → e.Answer) (e : Effect handler) :
    e.FindsGiven (s.answer answers e) := by
  cases e with
  | isShuttingDown => exact given
  | _ => trivial

/-- What has become of a system at some time after the signal was given: no start was admitted, and
each task has used up the leave that it had, if that. -/
structure Subsided (s u : PoolSystem handler) : Prop where
  given : u.state.signal.isGiven = true
  admitted : ∀ k, (u.starts k).isAdmitted = true → (s.starts k).isAdmitted = true
  claims : ∃ later, u.history = s.history ++ later ∧ ∀ i,
    Doing.claimsOf i later + (Doing.leaveOf i u.history).toNat ≤ (Doing.leaveOf i s.history).toNat

theorem Subsided.trans {v : PoolSystem handler} (h : Subsided s u) (h' : Subsided u v) :
    Subsided s v := by
  obtain ⟨first, before, fewer⟩ := h.claims
  obtain ⟨rest, after, fewer'⟩ := h'.claims
  refine ⟨h'.given, fun k admitted => h.admitted k (h'.admitted k admitted), first ++ rest,
    by rw [after, before, List.append_assoc], fun i => ?_⟩
  have := fewer i
  have := fewer' i
  rw [Doing.claimsOf_append]
  omega

/-- A step that only starts take part in, or shutdowns. -/
theorem subsided_of_gate {g : Gate handler} (given : g.state.signal.isGiven = true)
    (admitted : ∀ k, (g.starts k).isAdmitted = true → (s.starts k).isAdmitted = true) :
    Subsided s { s with toGate := g } :=
  ⟨given, admitted, [], by simp, fun i => by simp [Doing.claimsOf]⟩

/-- A start that goes on was admitted before, or is not admitted now. -/
theorem admitted_of_started {k : Nat} {stage : Starting handler} (holder : Option Nat)
    (same : stage.isAdmitted = true → (s.starts k).isAdmitted = true) (k' : Nat) :
    ((s.started k stage holder).starts k').isAdmitted = true → (s.starts k').isAdmitted = true := by
  rw [Gate.starts_started]
  split
  next heq => exact heq ▸ same
  next => exact fun admitted => admitted

/-- A task goes on after the signal was given. -/
theorem Heedful.subsided (h : s.Heedful) (given : s.state.signal.isGiven = true)
    {t : Pool.Task handler} (runs : s.running i = some t)
    (answers : (e : Effect handler) → e.Answer) : Subsided s (s.resume i answers t) := by
  have heeds := h.heeds i t runs
  have idle (next : Option (Pool.Task handler)) : Subsided s (s.went i next []) :=
    ⟨given, fun _ admitted => admitted, [], rfl, fun j => by simp [Doing.claimsOf]⟩
  rcases t with ⟨duty, turn | ⟨e, next⟩⟩
  · cases turn with
    | stop => exact idle none
    | again => exact idle _
  · refine ⟨given, fun _ admitted => admitted, _, rfl, fun j => ?_⟩
    rw [PoolSystem.resume, history_went]
    by_cases own : i = j
    · subst own
      rw [Doing.leaveOf_append_own]
      exact Doing.claimsOf_own heeds.1 (findsGiven_answer given answers e)
    · refine Nat.le_of_eq ?_
      rw [Doing.leaveOf_append_other own, Doing.claimsOf_other own, Nat.zero_add]

theorem Step.subsided (hstep : Step p s u) (h : s.Heedful)
    (given : s.state.signal.isGiven = true) : Subsided s u := by
  cases hstep with
  | begun | acquired | refused => exact subsided_of_gate given (admitted_of_started _ nofun)
  | admitted holding admits =>
    -- no start is admitted now
    rw [(PoolState.admitsStart_eq_ok.mp admits).2] at given
    cases given
  | @spawned k d rest spawns =>
    refine ⟨given, admitted_of_started s.holder fun _ => by rw [spawns]; rfl, [], by simp [spawn],
      fun i => by simp [Doing.claimsOf, spawn]⟩
  | @finished k spawns =>
    exact subsided_of_gate given (admitted_of_started _ fun _ => by rw [spawns]; rfl)
  | flagSet => exact subsided_of_gate rfl fun _ admitted => admitted
  | notified | taken => exact subsided_of_gate given fun _ admitted => admitted
  | resumed runs answers => exact h.subsided given runs answers
  | fallen =>
    exact ⟨given, fun _ admitted => admitted, [], rfl, fun j => by simp [Doing.claimsOf]⟩

/-! ## Every reachable system -/

/-- The task does not run yet, or has not looked at the signal yet, or rests. -/
def IsIdle (s : PoolSystem handler) (i : Nat) : Prop :=
  (∀ given, Doing.looked i given ∉ s.history) ∨
    ∃ duty milliseconds next, s.running i = some ⟨duty, .ask (.rest milliseconds) next⟩

theorem Heedful.leaveOf_of_isIdle (h : s.Heedful) (idle : s.IsIdle i) :
    Doing.leaveOf i s.history = false := by
  rcases idle with unlooked | ⟨duty, milliseconds, next, rests⟩
  · by_contra leave
    obtain ⟨past, since, history, -⟩ := Doing.exists_look (Bool.not_eq_false _ ▸ leave)
    exact unlooked false (by simp [history])
  · exact (h.heeds i _ rests).1

/-- **A pool starts once, and stops.** Whatever any number of starts and shutdowns of a pool that
was built do, and its tasks meanwhile, in whatever order: at most one start ever answers that the
pool was started. Once the signal is given, no start that was not admitted before answers so, in
particular none that begins later; and each task makes at most one claim more, which follows a look
that found the signal not given. A task that rested then, or had not looked yet, makes none, so that
it gets none of the jobs that are put in later. -/
theorem starts_once_and_stops {plan : PoolPlan handler} {name : String}
    (built : plan.build name = .ok p) {moves : List (Move handler)}
    (run : opening.run p moves = some s) :
    (∀ k k', s.starts k = .answered (.ok ()) → s.starts k' = .answered (.ok ()) → k = k') ∧
    (s.state.signal.isGiven = true → ∀ more u, s.run p more = some u →
      (∀ k, (s.starts k).isAdmitted = false → u.starts k ≠ .answered (.ok ())) ∧
      ∃ later, u.history = s.history ++ later ∧ ∀ i,
        Doing.claimsOf i later ≤ 1 ∧
        (Doing.claimsOf i later ≠ 0 → ∃ past since,
          s.history = past ++ .looked i false :: since ∧ Doing.claimsOf i since = 0) ∧
        (s.IsIdle i → Doing.claimsOf i later = 0)) := by
  have duties := PoolPlan.duties_ne_nil built
  obtain ⟨sound, heedful⟩ := run_induction (I := fun s => s.toGate.Sound ∧ s.Heedful) run
    ⟨Gate.sound_opening, heedful_opening⟩
    fun _ _ hstep h => ⟨hstep.sound duties h.1, hstep.heedful h.2⟩
  refine ⟨fun k k' through through' => sound.unique k k' (by rw [through]; rfl)
    (by rw [through']; rfl), fun given more u rest => ?_⟩
  obtain ⟨subsided, -⟩ := run_induction (I := fun u => Subsided s u ∧ u.Heedful) rest
    ⟨subsided_of_gate given fun _ admitted => admitted, heedful⟩
    fun _ _ hstep h => ⟨h.1.trans (hstep.subsided h.2 h.1.given), hstep.heedful h.2⟩
  refine ⟨fun k outside through => ?_, ?_⟩
  · rw [subsided.admitted k (by rw [through]; rfl)] at outside
    cases outside
  obtain ⟨later, history, claims⟩ := subsided.claims
  refine ⟨later, history, fun i => ?_⟩
  have claims := claims i
  cases leave : Doing.leaveOf i s.history with
  | false =>
    rw [leave, Bool.toNat_false] at claims
    have none : Doing.claimsOf i later = 0 := by omega
    exact ⟨by omega, fun some => absurd none some, fun _ => none⟩
  | true =>
    rw [leave, Bool.toNat_true] at claims
    refine ⟨by omega, fun _ => Doing.exists_look leave, fun idle => ?_⟩
    rw [heedful.leaveOf_of_isIdle idle] at leave
    cases leave

/-! ### The close of a day

A pool with one worker is started. The worker has just looked at the signal when the pool is shut
down, so that it claims once more. A second start comes too late.
-/

namespace Closing

def plan : PoolPlan Unit := ⟨{ Settings.standard with concurrency := 1 }, true, true, none⟩

def pool : Pool Unit := ⟨plan.settings, .empty, "day"⟩

theorem built : plan.build "day" = .ok pool := by
  have valid : plan.settings.broken? = none := by decide +kernel
  rw [PoolPlan.build, valid]
  rfl

/-- The surroundings of the worker. The store is empty, and no rest is cut short. -/
def around : (e : Effect Unit) → e.Answer :=
  Surroundings.answer ⟨.epoch, 0, .ofNat 0, .ok .null, false, none⟩ .empty

/-- The worker goes on by some effects. -/
def go (n : Nat) : List (Move Unit) := List.replicate n (.go 0 around)

def day : List (Move Unit) :=
  [.begin 0, .acquire 0, .check 0] ++ List.replicate pool.duties.length (.spawn 0) ++ [.finish 0] ++
    go 2 ++ [.setFlag 0]

def evening : List (Move Unit) :=
  [.begin 1, .notify 0] ++ go 4 ++ [.take 0, .acquire 1, .check 1] ++ go 8

/-- When the signal has just been given. -/
def closed : PoolSystem Unit := (opening.run pool day).get rfl

def final : PoolSystem Unit := (closed.run pool evening).get rfl

theorem run_day : opening.run pool day = some closed := (Option.some_get rfl).symm

theorem run_evening : closed.run pool evening = some final := (Option.some_get rfl).symm

end Closing

/-- The worker claims once more, and is over. -/
theorem starts_once_and_stops_closing :
    Closing.final.starts 0 = .answered (.ok ()) ∧
      Closing.final.starts 1 = .answered (.error .shutDown) ∧
      ∃ past since later, Closing.final.history = past ++ .looked 0 false :: since ++ later ∧
        Doing.claimsOf 0 later = 1 := by
  obtain ⟨-, stops⟩ := starts_once_and_stops Closing.built Closing.run_day
  obtain ⟨-, later, history, claims⟩ := stops rfl Closing.evening _ Closing.run_evening
  have all : Doing.claimsOf 0 Closing.final.history = 1 := rfl
  have none : Doing.claimsOf 0 Closing.closed.history = 0 := rfl
  have one : Doing.claimsOf 0 later = 1 := by
    rw [history, Doing.claimsOf_append, none, Nat.zero_add] at all
    exact all
  obtain ⟨past, since, before, -⟩ := (claims 0).2.1 (by omega)
  exact ⟨rfl, rfl, past, since, later, by rw [history, before], one⟩

end PoolSystem

end JobQueue
