import JobQueue.Metrics.Basic
import Mathlib.Algebra.Ring.Nat

/-!
# Counters

Each number that the metrics keep of jobs is a counter: it is read from what was measured so far,
and every measurement adds to it.

* `Counter.read` is what the metrics say, and `Counter.gain` is what a measurement adds.
* `Counter.read_record`: taking a measurement in adds its gain, unless the counter runs over.
* `Counter.total` is what several measurements add.
-/

namespace JobQueue

/-! ## Tallies -/

theorem Tally.count_increment {label : Type} [DecidableEq label] (l m : label) (t : Tally label) :
    count l (increment m t) = count l t + if m = l then 1 else 0 := by
  induction t with
  | nil => by_cases h : m = l <;> simp [increment, count, h]
  | cons e rest ih =>
    obtain ⟨k, n⟩ := e
    by_cases hk : k = m
    · by_cases h : m = l <;> simp [increment, count, hk, h]
    · by_cases h : k = l
      · have other : ¬m = l := fun hm => hk (h.trans hm.symm)
        simp [increment, count, h, other, Ne.symm other]
      · simpa [increment, count, hk, h] using ih

/-! ## Counters -/

/-- A number that the metrics keep of jobs. -/
inductive Counter where
  | enqueued (jobType : String)
  | finalized (jobType outcome : String)
  | released
  deriving DecidableEq

/-- Whether a measurement adds to no counter of jobs. -/
def Measurement.isAside : Measurement → Bool
  | .pruned _ | .duration _ _ _ => true
  | _ => false

namespace Counter

/-- What the metrics say. -/
def read (m : Metrics) : Counter → Nat
  | .enqueued jobType => m.enqueuedOf jobType
  | .finalized jobType outcome => m.finalizedOf jobType outcome
  | .released => m.released.toNat

/-- What a measurement adds. -/
def gain : Counter → Measurement → Nat
  | .enqueued t, .enqueued jobType => if jobType = t then 1 else 0
  | .finalized t o, .finalized jobType outcome => if (jobType, outcome) = (t, o) then 1 else 0
  | .released, .released count => count.toNat
  | _, _ => 0

/-- What several measurements add. -/
def total (c : Counter) (ms : List Measurement) : Nat := (ms.map c.gain).sum

variable {c : Counter} {m : Metrics} {x : Measurement}

@[simp] theorem read_empty (c : Counter) : c.read .empty = 0 := by cases c <;> rfl

@[simp] theorem total_nil (c : Counter) : c.total [] = 0 := rfl

@[simp] theorem total_cons (c : Counter) (x : Measurement) (ms : List Measurement) :
    c.total (x :: ms) = c.gain x + c.total ms := rfl

@[simp] theorem total_append (c : Counter) (ms more : List Measurement) :
    c.total (ms ++ more) = c.total ms + c.total more := by
  rw [total, List.map_append, List.sum_append]
  rfl

theorem gain_of_isAside (aside : x.isAside = true) (c : Counter) : c.gain x = 0 := by
  cases x <;> cases aside <;> cases c <;> rfl

theorem gain_finalized (c : Counter) (jobType outcome : String) :
    c.gain (.finalized jobType outcome) = if c = .finalized jobType outcome then 1 else 0 := by
  cases c with
  | finalized t o => simp [gain, eq_comm]
  | enqueued | released => rfl

/-- Only the locks that were taken are counted by the number. -/
theorem gain_le_one (c : Counter) (single : ∀ count, x ≠ .released count) : c.gain x ≤ 1 := by
  cases x with
  | released count => exact absurd rfl (single count)
  | enqueued jobType =>
    cases c with
    | enqueued t =>
      rw [gain]
      split <;> decide
    | finalized | released => exact Nat.zero_le 1
  | finalized jobType outcome =>
    rw [gain_finalized]
    split <;> decide
  | pruned | duration => cases c <;> exact Nat.zero_le 1

/-- Taking a measurement in adds its gain. -/
theorem read_record (room : c.read m + c.gain x < 2 ^ 64) :
    c.read (m.record x) = c.read m + c.gain x := by
  cases c with
  | enqueued t =>
    cases x with
    | enqueued jobType => exact Tally.count_increment t jobType m.enqueued
    | finalized | released | pruned | duration => rfl
  | finalized t o =>
    cases x with
    | finalized jobType outcome => exact Tally.count_increment (t, o) (jobType, outcome) m.finalized
    | enqueued | released | pruned | duration => rfl
  | released =>
    cases x with
    | released count =>
      show (m.released + count).toNat = m.released.toNat + count.toNat
      rw [UInt64.toNat_add]
      exact Nat.mod_eq_of_lt room
    | enqueued | finalized | pruned | duration => rfl

end Counter

end JobQueue
