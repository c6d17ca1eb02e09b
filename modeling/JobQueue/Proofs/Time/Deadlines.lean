import JobQueue.Proofs.Store.ExpiredLocks
import JobQueue.Proofs.Time.Forward
import JobQueue.Worker.Basic

/-!
# Deadlines at the ends of the range

The end of a lock and the time of the next attempt lie a duration after an instant, and there may be
no instant there: the duration can be longer than any that is admitted, or lead beyond the last
instant. Then the lock never runs out, and the next attempt waits for the last instant. Outside of
leap seconds this is what counting nanoseconds without any bounds comes to.

* `Instant.IsPlain`: an instant outside of leap seconds. Among these the order is that of their
  nanoseconds, and `Instant.exists_add?_iff` says which moves forward end in range.
* `Job.lockExpired_iff_lt`: a lock has run out when its end, counted without bounds, is past.
* `toNanoseconds_retryAt`: the next attempt is at the end of the delay, or at the last instant if
  that is sooner.
* `deadlines_exact`: both, with what follows from them.
-/

namespace JobQueue

/-! ## Instants outside of leap seconds -/

namespace Instant

variable {t u : Instant} {n : Nat}

/-- The instant is not within a leap second. -/
def IsPlain (t : Instant) : Prop := t.nano < 1000000000

instance : Decidable t.IsPlain := inferInstanceAs (Decidable (t.nano < 1000000000))

theorem isPlain_last : last.IsPlain := by decide

/-- Outside of leap seconds, instants are in the order of their nanoseconds. -/
theorem lt_iff_toNanoseconds_lt (ht : t.IsPlain) (hu : u.IsPlain) :
    t < u ↔ t.toNanoseconds < u.toNanoseconds := by
  show t.second < u.second ∨ (t.second = u.second ∧ t.nano < u.nano) ↔ _
  unfold IsPlain at ht hu
  unfold toNanoseconds
  omega

theorem le_iff_toNanoseconds_le (ht : t.IsPlain) (hu : u.IsPlain) :
    t ≤ u ↔ t.toNanoseconds ≤ u.toNanoseconds := by
  rw [le_iff]
  unfold IsPlain at ht hu
  unfold toNanoseconds
  omega

/-- No instant outside of leap seconds is later than the last one. -/
theorem toNanoseconds_le_last (ht : t.IsPlain) : t.toNanoseconds ≤ last.toNanoseconds := by
  have before : t.second ≤ last.second := t.le_last
  have fraction : last.nano = 999999999 := rfl
  unfold IsPlain at ht
  unfold toNanoseconds
  omega

example : last.text = "+262142-12-31T23:59:59.999999999Z" := by decide +kernel

/-- A move forward that begins outside of leap seconds ends outside of them, the nanoseconds
counted. -/
theorem add?_eq_some_iff_of_isPlain (ht : t.IsPlain) :
    t.add? n = some u ↔ u.IsPlain ∧ u.toNanoseconds = t.toNanoseconds + n := by
  unfold IsPlain at *
  rw [add?_eq_some_iff]
  omega

/-- A move forward ends in range unless it leads beyond the last instant. -/
theorem exists_add?_iff (ht : t.IsPlain) :
    (∃ u, t.add? n = some u) ↔ t.toNanoseconds + n ≤ last.toNanoseconds := by
  constructor
  · rintro ⟨u, ends⟩
    obtain ⟨hu, count⟩ := (add?_eq_some_iff_of_isPlain ht).mp ends
    rw [← count]
    exact toNanoseconds_le_last hu
  · intro before
    have after : t.second * 1000000000 ≤ t.toNanoseconds + n := by
      unfold toNanoseconds
      omega
    obtain ⟨u, hu, count⟩ := exists_toNanoseconds_eq after before isPlain_last
    exact ⟨u, (add?_eq_some_iff_of_isPlain ht).mpr ⟨hu, count⟩⟩

end Instant

open Instant

variable {job : Job} {time now : Instant} {delay longer : Nat}

/-! ## Locks -/

/-- A lock has run out when its end, counted without bounds, is past. An end beyond the last instant
is past at no time. -/
theorem Job.lockExpired_iff_lt (going : job.status = .processing)
    (locked : job.lockedAt = some time) (ht : time.IsPlain) (hnow : now.IsPlain) :
    job.lockExpired now = true ↔
      time.toNanoseconds + job.visibilityTimeoutMs.toNat * 1000000 < now.toNanoseconds := by
  have timeout : time.afterMs? job.visibilityTimeoutMs.toNat =
      time.add? (job.visibilityTimeoutMs.toNat * 1000000 : Nat) := after?_eq_add? time _
  rw [lockExpired_iff]
  constructor
  · rintro ⟨-, start, deadline, lockedAt, ends, past⟩
    obtain rfl : time = start := Option.some.inj (locked.symm.trans lockedAt)
    rw [timeout] at ends
    obtain ⟨plain, count⟩ := (add?_eq_some_iff_of_isPlain ht).mp ends
    have order := (lt_iff_toNanoseconds_lt plain hnow).mp past
    omega
  · intro past
    have inRange : time.toNanoseconds + (job.visibilityTimeoutMs.toNat * 1000000 : Nat) ≤
        last.toNanoseconds := by
      have := toNanoseconds_le_last hnow
      omega
    obtain ⟨deadline, ends⟩ := (exists_add?_iff ht).mpr inRange
    obtain ⟨plain, count⟩ := (add?_eq_some_iff_of_isPlain ht).mp ends
    refine ⟨going, time, deadline, locked, timeout.trans ends, ?_⟩
    rw [lt_iff_toNanoseconds_lt plain hnow]
    omega

/-! ## The next attempt -/

/-- The next attempt is at the end of the delay, or at the last instant if that is sooner. -/
theorem toNanoseconds_retryAt (hnow : now.IsPlain) (delay : Nat) :
    (retryAt now delay).IsPlain ∧
      (retryAt now delay).toNanoseconds = min (now.toNanoseconds + delay) last.toNanoseconds := by
  rw [retryAt, after?_eq_add?]
  by_cases inRange : now.toNanoseconds + delay ≤ last.toNanoseconds
  · obtain ⟨u, ends⟩ := (exists_add?_iff hnow).mpr inRange
    rw [ends, Option.getD_some, Int.min_eq_left inRange]
    exact (add?_eq_some_iff_of_isPlain hnow).mp ends
  · have beyond : now.add? delay = none := by
      rw [Option.eq_none_iff_forall_ne_some]
      intro u ends
      exact inRange ((exists_add?_iff hnow).mp ⟨u, ends⟩)
    rw [beyond, Option.getD_none, Int.min_eq_right (by omega)]
    exact ⟨isPlain_last, rfl⟩

theorem le_retryAt (hnow : now.IsPlain) (delay : Nat) : now ≤ retryAt now delay := by
  obtain ⟨plain, count⟩ := toNanoseconds_retryAt hnow delay
  have inRange := toNanoseconds_le_last hnow
  rw [le_iff_toNanoseconds_le hnow plain, count]
  omega

theorem retryAt_mono (hnow : now.IsPlain) (h : delay ≤ longer) :
    retryAt now delay ≤ retryAt now longer := by
  obtain ⟨plain, count⟩ := toNanoseconds_retryAt hnow delay
  obtain ⟨plain', count'⟩ := toNanoseconds_retryAt hnow longer
  rw [le_iff_toNanoseconds_le plain plain', count, count']
  omega

/-- **Deadlines are exact over the whole range of time.** Outside of leap seconds, a lock has run
out just when its end, counted in nanoseconds without bounds, is past, whatever its timeout; and the
next attempt is just at the end of the delay, or at the last instant if that is sooner. So the next
attempt never lies in the past, a longer delay does not make it sooner, and a lock that ran out
stays so. -/
theorem deadlines_exact (hnow : now.IsPlain) :
    (∀ (job : Job) (time : Instant), job.status = .processing → job.lockedAt = some time →
      time.IsPlain → (job.lockExpired now = true ↔
        time.toNanoseconds + job.visibilityTimeoutMs.toNat * 1000000 < now.toNanoseconds)) ∧
    (∀ delay : Nat, (retryAt now delay).IsPlain ∧
      (retryAt now delay).toNanoseconds = min (now.toNanoseconds + delay) last.toNanoseconds ∧
      now ≤ retryAt now delay) ∧
    (∀ delay longer : Nat, delay ≤ longer → retryAt now delay ≤ retryAt now longer) ∧
    (∀ (job : Job) (later : Instant), now ≤ later → job.lockExpired now = true →
      job.lockExpired later = true) ∧
    now.toNanoseconds ≤ last.toNanoseconds := by
  refine ⟨?_, ?_, ?_, ?_, toNanoseconds_le_last hnow⟩
  · intro job time going locked ht
    exact Job.lockExpired_iff_lt going locked ht hnow
  · intro delay
    obtain ⟨plain, count⟩ := toNanoseconds_retryAt hnow delay
    exact ⟨plain, count, le_retryAt hnow delay⟩
  · intro delay longer h
    exact retryAt_mono hnow h
  · intro job later h expired
    exact Job.lockExpired_mono expired h

namespace Deadlines

/-- A letter whose lock was taken at the epoch, under the longest timeout that there is. -/
def letter : Job :=
  { Job.queued (.ofNat 1) "letter" .null .epoch with
    status := .processing
    lockedAt := some .epoch
    visibilityTimeoutMs := UInt64.ofNat (Word.largest 64) }

theorem eternal : ¬epoch.toNanoseconds + letter.visibilityTimeoutMs.toNat * 1000000 <
    last.toNanoseconds := by
  decide

end Deadlines

/-- At the last instant the lock of the letter has not run out, and a failed attempt waits for that
very instant. -/
theorem deadlines_exact_last :
    last.IsPlain ∧ ¬Deadlines.letter.lockExpired last ∧
      (retryAt last 1).toNanoseconds = last.toNanoseconds := by
  obtain ⟨locks, attempts, -⟩ := deadlines_exact isPlain_last
  refine ⟨isPlain_last, fun expired => ?_, ?_⟩
  · exact Deadlines.eternal ((locks _ epoch rfl rfl (by decide)).mp expired)
  · rw [(attempts 1).2.1]
    exact Int.min_eq_right (by omega)

end JobQueue
