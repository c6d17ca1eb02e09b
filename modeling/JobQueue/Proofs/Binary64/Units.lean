import JobQueue.Binary64.Basic
import Mathlib.Data.Rat.Cast.Order
import Mathlib.Order.Monotone.Basic
import Mathlib.Tactic.Linarith
import Mathlib.Tactic.Ring

/-!
# Magnitudes on the line

The magnitudes in increasing order, and the values next to each of them.

* `Binary64.gap` is the distance to the next magnitude. It never shrinks on the way up, and a
  magnitude is at most `2 ^ 53` times the gap below it (`unitsOf_succ_le_gap`).
* `Binary64.Near` holds of the values, in half units, that are nearest to a magnitude.
  `Binary64.Near.unique`: no value is nearest to two of them.
-/

namespace JobQueue.Binary64

/-! ## The distance between neighbours -/

/-- The distance from a magnitude to the next one, in units. -/
def gap (ordinal : Nat) : Nat := Nat.pow 2 (ordinal / binade - 1)

theorem binade_pos : 0 < binade := Nat.two_pow_pos 52

theorem unitsOfOne_pos : 0 < unitsOfOne := by decide +kernel

theorem gap_pos (o : Nat) : 0 < gap o := Nat.two_pow_pos _

theorem gap_mono {o p : Nat} (h : o ≤ p) : gap o ≤ gap p :=
  Nat.pow_le_pow_right (by decide) (Nat.sub_le_sub_right (Nat.div_le_div_right h) 1)

theorem unitsOf_eq (o : Nat) : unitsOf o = (o - (o / binade - 1) * binade) * gap o := rfl

@[simp] theorem unitsOf_zero : unitsOf 0 = 0 := by simp [unitsOf]

/-- The binades below a magnitude's own do not reach past it. -/
theorem shift_mul_binade_le (o : Nat) : (o / binade - 1) * binade ≤ o :=
  (Nat.mul_le_mul_right _ (Nat.sub_le _ _)).trans (Nat.div_mul_le_self _ _)

theorem unitsOf_succ (o : Nat) : unitsOf (o + 1) = unitsOf o + gap o := by
  have split : o / binade * binade + o % binade = o := Nat.div_add_mod' o binade
  have inside : o % binade < binade := Nat.mod_lt _ binade_pos
  have reach := shift_mul_binade_le o
  rw [unitsOf_eq, unitsOf_eq]
  by_cases last : o % binade + 1 = binade
  · -- The next magnitude opens a binade.
    have next : o + 1 = (o / binade + 1) * binade := by rw [Nat.succ_mul]; omega
    have quotient : (o + 1) / binade = o / binade + 1 := by
      rw [next, Nat.mul_div_cancel _ binade_pos]
    unfold gap
    rw [quotient, Nat.add_sub_cancel]
    match h : o / binade with
    | 0 => simp [Nat.pow]
    | k + 1 =>
      rw [h] at next reach
      have whole : o + 1 - (k + 1) * binade = binade := by
        rw [next, ← Nat.sub_mul, Nat.add_sub_cancel_left, Nat.one_mul]
      have half : o - k * binade + 1 = 2 * binade := by
        rw [Nat.succ_mul, Nat.succ_mul] at next
        omega
      calc (o + 1 - (k + 1) * binade) * Nat.pow 2 (k + 1)
          = 2 * binade * Nat.pow 2 k := by rw [whole, Nat.pow_eq, Nat.pow_succ, Nat.pow_eq]; ring
        _ = (o - k * binade) * Nat.pow 2 k + Nat.pow 2 k := by rw [← half, Nat.succ_mul]
        _ = (o - (k + 1 - 1) * binade) * Nat.pow 2 (k + 1 - 1) + Nat.pow 2 (k + 1 - 1) := rfl
  · have quotient : (o + 1) / binade = o / binade := by
      rw [Nat.succ_div, if_neg, Nat.add_zero]
      intro divides
      obtain ⟨m, hm⟩ := divides
      have low : o / binade * binade < binade * m := by omega
      have high : binade * m < (o / binade + 1) * binade := by rw [Nat.succ_mul]; omega
      rw [Nat.mul_comm binade m] at low high
      have := Nat.lt_of_mul_lt_mul_right low
      have := Nat.lt_of_mul_lt_mul_right high
      omega
    have same : gap (o + 1) = gap o := by rw [gap, quotient, gap]
    rw [quotient, same, Nat.sub_add_comm reach, Nat.succ_mul]

theorem unitsOf_strictMono : StrictMono unitsOf :=
  strictMono_nat_of_lt_succ fun o => by
    rw [unitsOf_succ]
    exact Nat.lt_add_of_pos_right (gap_pos o)

/-- A magnitude has at most `53` binary digits before those of the gap below it. -/
theorem unitsOf_succ_le_gap (o : Nat) : unitsOf (o + 1) ≤ 2 * binade * gap o := by
  have split : o / binade * binade + o % binade = o := Nat.div_add_mod' o binade
  have inside : o % binade < binade := Nat.mod_lt _ binade_pos
  have digits : o - (o / binade - 1) * binade + 1 ≤ 2 * binade := by
    rw [Nat.sub_mul]
    omega
  calc unitsOf (o + 1)
      = (o - (o / binade - 1) * binade + 1) * gap o := by
        rw [unitsOf_succ, unitsOf_eq, Nat.succ_mul]
    _ ≤ 2 * binade * gap o := Nat.mul_le_mul_right _ digits

/-! ## The values nearest to a magnitude -/

/-- A value in half units is nearest to the magnitude with this ordinal, one half way to a neighbour
being nearest to the even one of the two. -/
def Near (ordinal : Nat) (value : ℚ) : Prop :=
  let low : ℚ := unitsOf (ordinal - 1) + unitsOf ordinal
  let high : ℚ := unitsOf ordinal + unitsOf (ordinal + 1)
  if ordinal % 2 = 0 then low ≤ value ∧ value ≤ high else low < value ∧ value < high

variable {o p : Nat} {value : ℚ}

theorem near_zero : Near 0 0 := by
  simp [Near, (Nat.cast_nonneg _ : (0 : ℚ) ≤ unitsOf 1)]

/-- What it means for a ratio to be nearest to a magnitude, in whole numbers. -/
theorem near_div_iff {num den : Nat} (hden : 0 < den) :
    Near o (num / den : ℚ) ↔
      if o % 2 = 0 then
        (unitsOf (o - 1) + unitsOf o) * den ≤ num ∧ num ≤ (unitsOf o + unitsOf (o + 1)) * den
      else (unitsOf (o - 1) + unitsOf o) * den < num ∧ num < (unitsOf o + unitsOf (o + 1)) * den := by
  have positive : (0 : ℚ) < den := by exact_mod_cast hden
  unfold Near
  split
  · simp only [le_div_iff₀ positive, div_le_iff₀ positive]
    norm_cast
  · simp only [lt_div_iff₀ positive, div_lt_iff₀ positive]
    norm_cast

theorem Near.low_le (h : Near o value) : (unitsOf (o - 1) + unitsOf o : ℚ) ≤ value := by
  unfold Near at h
  split at h
  · exact h.1
  · exact h.1.le

theorem Near.le_high (h : Near o value) : value ≤ (unitsOf o + unitsOf (o + 1) : ℚ) := by
  unfold Near at h
  split at h
  · exact h.2
  · exact h.2.le

/-- What is nearest to a magnitude comes before what is nearest to a larger one. -/
theorem Near.lt_of_lt (ho : Near o value) {value' : ℚ} (hp : Near p value') (h : o < p) :
    value < value' := by
  have last := ho.le_high
  have first := hp.low_le
  have lower : unitsOf o ≤ unitsOf (p - 1) := unitsOf_strictMono.monotone (by omega)
  have upper : unitsOf (o + 1) ≤ unitsOf p := unitsOf_strictMono.monotone h
  have ends : (unitsOf o + unitsOf (o + 1) : ℚ) ≤ unitsOf (p - 1) + unitsOf p := by
    exact_mod_cast Nat.add_le_add lower upper
  by_cases apart : o + 1 = p
  · -- The two share an end, which belongs to the even one only.
    unfold Near at ho hp
    split at ho
    · rw [if_neg (by omega)] at hp
      linarith [hp.1]
    · linarith [ho.2]
  · have strict : unitsOf (o + 1) < unitsOf p := unitsOf_strictMono (by omega)
    have : (unitsOf o + unitsOf (o + 1) : ℚ) < unitsOf (p - 1) + unitsOf p := by
      exact_mod_cast Nat.add_lt_add_of_le_of_lt lower strict
    linarith

theorem Near.unique (ho : Near o value) (hp : Near p value) : o = p := by
  rcases Nat.lt_trichotomy o p with h | h | h
  · exact absurd (ho.lt_of_lt hp h) (lt_irrefl _)
  · exact h
  · exact absurd (hp.lt_of_lt ho h) (lt_irrefl _)

end JobQueue.Binary64
