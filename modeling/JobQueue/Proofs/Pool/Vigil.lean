import JobQueue.Pool.Signal
import Mathlib.Logic.Function.Basic

/-!
# Waiting for the shutdown signal

Any number of waits for one signal are under way, and it is given any number of times, in steps that
take their turns in every order. A wait registers and then looks whether the flag is set; if it is
not, the wait is asleep until it is notified. Giving the signal sets the flag, and then notifies all
that are registered. A wait may also be given up, as when its time is over.

The order of the two steps on either side is what matters. A wait that looks too early to see the
flag is registered by then, and so it is among those that are notified.

* `Vigil` is the signal, and how far each wait and each giving has come.
* `Vigil.step` takes one of the steps, and `Vigil.run` several.
* `Vigil.Sound` is what all steps keep.
* `Vigil.no_notice_lost`: nobody is asleep for want of a notice once the signal has been given, and
  nobody comes back before the flag is set.
* `Vigil.run_awaitMoves`: a wait that `Signal.await` tells of as a whole is made of these steps.
-/

namespace JobQueue

/-! ## Steps -/

/-- How far a wait has come. -/
inductive Wait where
  | before
  | registered
  /-- It has looked when the flag was not set. -/
  | asleep
  /-- The signal has ended it. -/
  | back
  | givenUp
  deriving DecidableEq

/-- Whether a wait has begun and is not over. -/
def Wait.isUnderWay : Wait → Bool
  | .registered | .asleep => true
  | .before | .back | .givenUp => false

/-- How far the giving of a signal has come. -/
inductive Giving where
  | before
  | flagSet
  | through
  deriving DecidableEq

/-- A signal, with those that wait for it and those that give it. -/
structure Vigil where
  signal : Signal
  waits : Nat → Wait
  givings : Nat → Giving

@[simp] theorem Signal.isGiven_register (s : Signal) (w : Nat) :
    (s.register w).isGiven = s.isGiven := rfl

namespace Vigil

/-- A step of a wait, or of the giving of the signal. -/
inductive Move where
  | register (w : Nat)
  | look (w : Nat)
  | wake (w : Nat)
  | giveUp (w : Nat)
  | setFlag (g : Nat)
  | notify (g : Nat)

/-- Nobody has waited for the signal, and it was not given. -/
def opening : Vigil := ⟨.fresh, fun _ => .before, fun _ => .before⟩

/-- A wait comes to a stage. -/
def waited (v : Vigil) (w : Nat) (stage : Wait) (s : Signal) : Vigil :=
  { v with signal := s, waits := Function.update v.waits w stage }

/-- A giving comes to a stage. -/
def gave (v : Vigil) (g : Nat) (stage : Giving) (s : Signal) : Vigil :=
  { v with signal := s, givings := Function.update v.givings g stage }

section

variable (v : Vigil) (w g : Nat) (s : Signal)

@[simp] theorem waits_waited (stage : Wait) (w' : Nat) :
    (v.waited w stage s).waits w' = if w' = w then stage else v.waits w' :=
  Function.update_apply ..

@[simp] theorem signal_waited (stage : Wait) : (v.waited w stage s).signal = s := rfl

@[simp] theorem givings_waited (stage : Wait) : (v.waited w stage s).givings = v.givings := rfl

@[simp] theorem givings_gave (stage : Giving) (g' : Nat) :
    (v.gave g stage s).givings g' = if g' = g then stage else v.givings g' :=
  Function.update_apply ..

@[simp] theorem signal_gave (stage : Giving) : (v.gave g stage s).signal = s := rfl

@[simp] theorem waits_gave (stage : Giving) : (v.gave g stage s).waits = v.waits := rfl

end

/-- One step. One that nobody can take now makes no vigil. -/
def step (v : Vigil) : Move → Option Vigil
  | .register w =>
    if v.waits w = .before then some (v.waited w .registered (v.signal.register w)) else none
  | .look w =>
    if v.waits w = .registered then
      if v.signal.isGiven then some (v.waited w .back (v.signal.withdraw w))
      else some (v.waited w .asleep v.signal)
    else none
  | .wake w =>
    if v.waits w = .asleep ∧ w ∉ v.signal.registered then some (v.waited w .back v.signal) else none
  | .giveUp w =>
    if (v.waits w).isUnderWay then some (v.waited w .givenUp (v.signal.withdraw w)) else none
  | .setFlag g =>
    if v.givings g = .before then some (v.gave g .flagSet v.signal.setFlag) else none
  | .notify g =>
    if v.givings g = .flagSet then some (v.gave g .through v.signal.notifyAll.2) else none

/-- Several steps. -/
def run (v : Vigil) : List Move → Option Vigil
  | [] => some v
  | move :: moves => (v.step move).bind fun u => run u moves

/-- The wait is asleep, and was not notified. -/
def IsParked (v : Vigil) (w : Nat) : Prop := v.waits w = .asleep ∧ w ∈ v.signal.registered

/-! ## What all steps keep -/

variable {v u : Vigil} {w g : Nat} {s : Signal}

/-- What is true of waits and givings at any time. -/
structure Sound (v : Vigil) : Prop where
  flag : ∀ g, v.givings g ≠ .before → v.signal.isGiven = true
  back : ∀ w, v.waits w = .back → v.signal.isGiven = true
  /-- Only a notice takes a wait under way from those registered. -/
  notified : ∀ w, (v.waits w).isUnderWay = true → w ∉ v.signal.registered → v.signal.isGiven = true
  awake : ∀ g, v.givings g = .through → ∀ w, ¬v.IsParked w

theorem sound_opening : opening.Sound where
  flag _ begun := absurd rfl begun
  back _ back := nomatch back
  notified _ underWay := nomatch underWay
  awake _ through := nomatch through

/-- A step of a wait touches no other one. It falls asleep while the flag is not set, when no giving
is through, and comes back when the flag is set. -/
theorem Sound.waited (h : v.Sound) {stage : Wait} (same : s.isGiven = v.signal.isGiven)
    (others : ∀ w', w' ≠ w → (w' ∈ s.registered ↔ w' ∈ v.signal.registered))
    (back : stage = .back → s.isGiven = true)
    (notified : stage.isUnderWay = true → w ∉ s.registered → s.isGiven = true)
    (asleep : stage = .asleep → s.isGiven = false) : (v.waited w stage s).Sound where
  flag g begun := same.trans (h.flag g begun)
  back w' isBack := by
    rw [waits_waited] at isBack
    split at isBack
    · exact back isBack
    · exact same.trans (h.back w' isBack)
  notified w' underWay absent := by
    rw [waits_waited] at underWay
    split at underWay
    next heq => exact notified underWay (heq ▸ absent)
    next hne =>
      exact same.trans (h.notified w' underWay fun mem => absent ((others w' hne).mpr mem))
  awake g through w' := by
    rintro ⟨sleeps, mem⟩
    rw [waits_waited] at sleeps
    split at sleeps
    · rw [givings_waited] at through
      have set : s.isGiven = true := same.trans (h.flag g (by rw [through]; nofun))
      rw [asleep sleeps] at set
      cases set
    next hne => exact h.awake g through w' ⟨sleeps, (others w' hne).mp mem⟩

/-- Whoever gives the signal has set the flag, and has notified all when done. -/
theorem Sound.gave (h : v.Sound) {stage : Giving} (set : s.isGiven = true)
    (fewer : s.registered ⊆ v.signal.registered) (none : stage = .through → s.registered = []) :
    (v.gave g stage s).Sound where
  flag _ _ := set
  back _ _ := set
  notified _ _ _ := set
  awake g' through w' := by
    rintro ⟨sleeps, mem⟩
    rw [givings_gave] at through
    split at through
    · rw [signal_gave, none through] at mem
      cases mem
    · exact h.awake g' through w' ⟨sleeps, fewer mem⟩

theorem mem_registered_withdraw {w' : Nat} (hne : w' ≠ w) :
    w' ∈ (s.withdraw w).registered ↔ w' ∈ s.registered := by
  simp [Signal.withdraw, hne]

theorem Sound.step (h : v.Sound) {move : Move} (hstep : v.step move = some u) : u.Sound := by
  cases move with
  | register w =>
    obtain ⟨-, ⟨⟩⟩ := Option.ite_none_right_eq_some.mp hstep
    refine h.waited rfl (fun w' hne => ?_) nofun (fun _ absent => ?_) nofun
    · simp [Signal.register, hne]
    · exact absurd List.mem_cons_self absent
  | look w =>
    obtain ⟨registered, hstep⟩ := Option.ite_none_right_eq_some.mp hstep
    split at hstep
    next set =>
      cases hstep
      exact h.waited rfl (fun w' => mem_registered_withdraw) (fun _ => set) nofun nofun
    next unset =>
      cases hstep
      refine h.waited rfl (fun _ _ => .rfl) nofun (fun _ => ?_) fun _ => Bool.eq_false_iff.mpr unset
      exact h.notified w (by rw [registered]; rfl)
  | wake w =>
    obtain ⟨⟨sleeps, absent⟩, ⟨⟩⟩ := Option.ite_none_right_eq_some.mp hstep
    have set := h.notified w (by rw [sleeps]; rfl) absent
    exact h.waited rfl (fun _ _ => .rfl) (fun _ => set) nofun nofun
  | giveUp w =>
    obtain ⟨-, ⟨⟩⟩ := Option.ite_none_right_eq_some.mp hstep
    exact h.waited rfl (fun w' => mem_registered_withdraw) nofun nofun nofun
  | setFlag g =>
    obtain ⟨-, ⟨⟩⟩ := Option.ite_none_right_eq_some.mp hstep
    exact h.gave rfl (fun _ mem => mem) nofun
  | notify g =>
    obtain ⟨begun, ⟨⟩⟩ := Option.ite_none_right_eq_some.mp hstep
    exact h.gave (h.flag g (by rw [begun]; nofun)) (List.nil_subset _) fun _ => rfl

theorem Sound.run (h : v.Sound) {moves : List Move} (hrun : v.run moves = some u) : u.Sound := by
  induction moves generalizing v with
  | nil =>
    cases hrun
    exact h
  | cons move moves ih =>
    obtain ⟨m, hstep, hrest⟩ := Option.bind_eq_some_iff.mp hrun
    exact ih (h.step hstep) hrest

/-! ## Every reachable vigil -/

/-- A wait under way ends with its next step once a giving is through. -/
theorem Sound.comes_back (h : v.Sound) (through : v.givings g = .through)
    (underWay : (v.waits w).isUnderWay = true) :
    ∃ move u, v.step move = some u ∧ u.waits w = .back := by
  cases stage : v.waits w with
  | registered =>
    have set : v.signal.isGiven = true := h.flag g (by rw [through]; nofun)
    exact ⟨.look w, v.waited w .back (v.signal.withdraw w), by simp [Vigil.step, stage, set],
      Function.update_self ..⟩
  | asleep =>
    have notified : w ∉ v.signal.registered := fun mem => h.awake g through w ⟨stage, mem⟩
    exact ⟨.wake w, v.waited w .back v.signal, by simp [Vigil.step, stage, notified],
      Function.update_self ..⟩
  | before | back | givenUp =>
    rw [stage] at underWay
    cases underWay

/-- A wait comes back with a step of its own, when the flag is set. -/
theorem Sound.set_of_back (h : v.Sound) {move : Move} (hstep : v.step move = some u)
    (notYet : v.waits w ≠ .back) (back : u.waits w = .back) : v.signal.isGiven = true := by
  have set := (h.step hstep).back w back
  cases move with
  | setFlag g | notify g =>
    -- these touch no wait
    obtain ⟨-, ⟨⟩⟩ := Option.ite_none_right_eq_some.mp hstep
    exact absurd back notYet
  | register | wake | giveUp =>
    obtain ⟨-, ⟨⟩⟩ := Option.ite_none_right_eq_some.mp hstep
    exact set
  | look =>
    obtain ⟨-, hstep⟩ := Option.ite_none_right_eq_some.mp hstep
    split at hstep <;> cases hstep <;> exact set

/-- **No notice is lost.** Whatever steps any number of waits have taken, and any number of those
that give the signal: once one of these is through, nobody is asleep who was not notified, and every
wait that is under way can end with its next step; and no wait ever comes back while the flag is not
set. -/
theorem no_notice_lost {moves : List Move} (hrun : opening.run moves = some v) :
    (∀ g, v.givings g = .through → ∀ w, ¬v.IsParked w ∧
      ((v.waits w).isUnderWay = true → ∃ move u, v.step move = some u ∧ u.waits w = .back)) ∧
    ∀ w move u, v.step move = some u → v.waits w ≠ .back → u.waits w = .back →
      v.signal.isGiven = true := by
  have sound := sound_opening.run hrun
  exact ⟨fun g through w => ⟨sound.awake g through w, sound.comes_back through⟩,
    fun w _ _ hstep => sound.set_of_back hstep⟩

/-! ### A quick giver

One wait looks before the flag is set, and another one between the two steps of a giver. A second
giver is through before the first one.
-/

namespace QuickGiver

def moves : List Move :=
  [.register 0, .look 0, .register 1, .setFlag 0, .look 1, .setFlag 1, .notify 1]

def final : Vigil := (opening.run moves).get rfl

theorem run_eq : opening.run moves = some final := (Option.some_get rfl).symm

end QuickGiver

theorem no_notice_lost_quick_giver :
    QuickGiver.final.waits 0 = .asleep ∧ ¬QuickGiver.final.IsParked 0 ∧
      ∃ move u, QuickGiver.final.step move = some u ∧ u.waits 0 = .back := by
  obtain ⟨notified, returns⟩ := (no_notice_lost QuickGiver.run_eq).1 1 rfl 0
  exact ⟨rfl, notified, returns rfl⟩

/-- A wait sleeps until it is notified. -/
example : (opening.run [.register 0, .look 0, .setFlag 0, .wake 0]).isNone := rfl

/-! ## A wait as a whole -/

/-- The steps of a wait that nothing else disturbs than one giving of the signal, before its time is
over or not at all. -/
def awaitMoves (v : Vigil) (w g limit : Nat) (givenAfter : Option Nat) : List Move :=
  if v.signal.isGiven then [.register w, .look w]
  else if givenAfter.any (· < limit) then
    [.register w, .look w, .setFlag g, .notify g, .wake w]
  else [.register w, .look w, .giveUp w]

/-- They end as `Signal.await` says, and leave the signal that it says. -/
theorem run_awaitMoves (begins : v.waits w = .before) (absent : w ∉ v.signal.registered)
    (gives : v.givings g = .before) (limit : Nat) (givenAfter : Option Nat) :
    ∃ u, v.run (v.awaitMoves w g limit givenAfter) = some u ∧
      u.waits w = (if (v.signal.await limit givenAfter).1 then .back else .givenUp) ∧
      u.signal = (v.signal.await limit givenAfter).2.2 := by
  have forgotten : (v.signal.register w).withdraw w = v.signal := by
    have others : v.signal.registered.filter (· ≠ w) = v.signal.registered :=
      List.filter_eq_self.mpr fun w' mem => by
        simpa using fun heq : w' = w => absent (heq ▸ mem)
    rw [Signal.withdraw, Signal.register, List.filter_cons_of_neg (by simp), others, others]
  unfold awaitMoves Signal.await
  by_cases given : v.signal.isGiven = true
  · refine ⟨(v.waited w .registered (v.signal.register w)).waited w .back v.signal, ?_, ?_, ?_⟩ <;>
      simp [run, step, begins, given, forgotten]
  have late : ∃ u, v.run [.register w, .look w, .giveUp w] = some u ∧ u.waits w = .givenUp ∧
      u.signal = v.signal := by
    refine ⟨((v.waited w .registered (v.signal.register w)).waited w .asleep
      (v.signal.register w)).waited w .givenUp v.signal, ?_, ?_, ?_⟩ <;>
      simp [run, step, begins, given, forgotten, Wait.isUnderWay]
  rcases givenAfter with _ | after
  · simpa [given] using late
  by_cases early : after < limit
  · refine ⟨((((v.waited w .registered (v.signal.register w)).waited w .asleep
      (v.signal.register w)).gave g .flagSet (v.signal.register w).setFlag).gave g .through
      v.signal.give.2).waited w .back v.signal.give.2, ?_, ?_, ?_⟩ <;>
      simp [run, step, begins, gives, given, early, Signal.give, Signal.notifyAll, Signal.setFlag,
        Signal.register]
  · simpa [given, early] using late

end Vigil

end JobQueue
