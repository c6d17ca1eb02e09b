import JobQueue.Binary64.Digits
import JobQueue.Proofs.Binary64.Units
import JobQueue.Proofs.Text.Digits
import Mathlib.Algebra.Order.Field.Power
import Mathlib.Data.List.DropRight

/-!
# The shortest digits of a double

The digits chosen for a magnitude are always found, and they write a value that is nearest to the
magnitude, so that no two magnitudes have the same ones.

* `Binary64.near_shortest`: the value of the shortest digits is nearest to the magnitude.
* `Binary64.shortest_value_injective`: the magnitude is known from the value of its digits.

Seventeen digits are always enough: a step of their grid is less than the distance to either
neighbour, hence one of the two decimals around the magnitude is within half of that.
-/

namespace JobQueue.Binary64

variable {tie : Tie} {o : Nat}

/-! ## Reading back -/

theorem readsBack_iff {num den : Nat} (hden : 0 < den) :
    readsBack o num den = true ↔ Near o (num / den : ℚ) := by
  rw [near_div_iff hden, readsBack]
  split <;> simp only [Bool.and_eq_true, decide_eq_true_eq]

/-! ## Powers of ten -/

/-- A power of ten as a quotient of whole numbers, one of which is one. -/
theorem ten_zpow (place : Int) :
    (10 : ℚ) ^ place = (10 ^ place.toNat : Nat) / (10 ^ (-place).toNat : Nat) := by
  push_cast
  cases place with
  | ofNat n => simp
  | negSucc n => simp [zpow_negSucc]

/-- The power of ten that a ratio is measured by does not exceed it. -/
theorem ten_zpow_decimalExponent_le {num den : Nat} (hnum : 0 < num) (hden : 0 < den) :
    (10 : ℚ) ^ decimalExponent num den ≤ num / den := by
  have positive : (0 : ℚ) < den := by exact_mod_cast hden
  rw [le_div_iff₀ positive]
  unfold decimalExponent
  split
  · rename_i whole
    have atLeast := Text.ten_pow_le (Nat.div_pos whole hden)
    have some : 0 < (Nat.toDigits 10 (num / den)).length := Nat.length_toDigits_pos
    rw [show ((Nat.toDigits 10 (num / den)).length : Int) - 1 =
      ((Nat.toDigits 10 (num / den)).length - 1 : Nat) by omega, zpow_natCast]
    exact_mod_cast (Nat.mul_le_mul_right den atLeast).trans (Nat.div_mul_le_self num den)
  · have below := Text.lt_ten_pow ((den - 1) / num)
    have bound : den ≤ num * 10 ^ (Nat.toDigits 10 ((den - 1) / num)).length := by
      have := (Nat.div_lt_iff_lt_mul hnum).mp below
      rw [Nat.mul_comm] at this
      omega
    rw [zpow_neg, zpow_natCast, inv_mul_le_iff₀ (by positivity), mul_comm]
    exact_mod_cast bound

/-! ## The grid of decimals with some number of digits -/

/-- What the search takes on a grid reads back. -/
theorem near_of_nearestOnGrid? {place : Int} {factor : Nat}
    (h : nearestOnGrid? tie o place = some factor) :
    Near o (2 * unitsOfOne * (factor * (10 : ℚ) ^ place)) := by
  have fits : readsBack o (factor * (2 * unitsOfOne * Nat.pow 10 place.toNat))
      (Nat.pow 10 (-place).toNat) = true := by
    unfold nearestOnGrid? at h
    dsimp only at h
    split at h
    · rename_i lower
      rw [Bool.and_eq_true] at lower
      rw [← Option.some.inj h]
      exact lower.1
    · split at h
      · rename_i upper
        rw [← Option.some.inj h]
        exact upper
      · exact absurd h (by simp)
  have near := (readsBack_iff (Nat.pow_pos (by decide))).mp fits
  rw [ten_zpow]
  convert near using 1
  push_cast [Nat.pow_eq]
  ring

/-- What is less than the gap below a magnitude away from it reads back. -/
theorem readsBack_of_close (ho : 0 < o) {num den : Nat}
    (low : 2 * unitsOf o * den < num + gap (o - 1) * den)
    (high : num < 2 * unitsOf o * den + gap (o - 1) * den) : readsBack o num den = true := by
  have below : unitsOf o = unitsOf (o - 1) + gap (o - 1) := by
    rw [← unitsOf_succ, Nat.sub_add_cancel ho]
  have wider : gap (o - 1) * den ≤ gap o * den :=
    Nat.mul_le_mul_right den (gap_mono (Nat.sub_le o 1))
  have first : (unitsOf (o - 1) + unitsOf o) * den < num := by
    have : 2 * unitsOf o * den = (unitsOf (o - 1) + unitsOf o) * den + gap (o - 1) * den := by
      rw [← Nat.add_mul]
      congr 1
      omega
    omega
  have last : num < (unitsOf o + unitsOf (o + 1)) * den := by
    have : (unitsOf o + unitsOf (o + 1)) * den = 2 * unitsOf o * den + gap o * den := by
      rw [unitsOf_succ, ← Nat.add_mul]
      congr 1
      omega
    omega
  unfold readsBack
  split
  · simp [first.le, last.le]
  · simp [first, last]

/-- A grid whose step is shorter than the gap below a magnitude has a decimal that reads back. -/
theorem isSome_nearestOnGrid? (ho : 0 < o) {place : Int}
    (fine : unitsOfOne * (10 : ℚ) ^ place < gap (o - 1)) :
    (nearestOnGrid? tie o place).isSome = true := by
  have finer : unitsOfOne * Nat.pow 10 place.toNat < gap (o - 1) * Nat.pow 10 (-place).toNat := by
    have positive : (0 : ℚ) < (10 ^ (-place).toNat : Nat) := by
      exact_mod_cast Nat.pow_pos (by decide)
    rw [ten_zpow, ← mul_div_assoc, div_lt_iff₀ positive] at fine
    exact_mod_cast fine
  unfold nearestOnGrid?
  dsimp only
  rw [Nat.mul_assoc 2 unitsOfOne]
  generalize hstep : unitsOfOne * Nat.pow 10 place.toNat = step at finer ⊢
  generalize hscale : Nat.pow 10 (-place).toNat = scale at finer ⊢
  generalize hbelow : 2 * unitsOf o * scale / (2 * step) = below
  have positive : 0 < 2 * step := by
    rw [← hstep]
    exact Nat.mul_pos (by decide) (Nat.mul_pos unitsOfOne_pos (Nat.pow_pos (by decide)))
  have lower : below * (2 * step) ≤ 2 * unitsOf o * scale := by
    rw [← hbelow]
    exact Nat.div_mul_le_self _ _
  have upper : 2 * unitsOf o * scale < (below + 1) * (2 * step) := by
    rw [Nat.mul_comm (below + 1), ← hbelow]
    exact Nat.lt_mul_div_succ _ positive
  have width : (below + 1) * (2 * step) = below * (2 * step) + 2 * step := Nat.succ_mul _ _
  -- The value is within half a step of one of the two decimals around it.
  have fits : readsBack o (below * (2 * step)) scale = true ∨
      readsBack o ((below + 1) * (2 * step)) scale = true := by
    by_cases half : 2 * unitsOf o * scale - below * (2 * step) ≤ step
    · exact .inl (readsBack_of_close ho (by omega) (by omega))
    · exact .inr (readsBack_of_close ho (by omega) (by omega))
  rcases fits with fits | fits
  · rw [fits]
    cases readsBack o ((below + 1) * (2 * step)) scale
    · rfl
    · simp only [Bool.true_and, if_true]
      split <;> rfl
  · rw [fits]
    simp only [if_true]
    split <;> rfl

/-! ## The search -/

/-- Seventeen digits of a magnitude are fine enough. -/
theorem seventeen_digits_fine (ho : 0 < o) :
    unitsOfOne * (10 : ℚ) ^ (decimalExponent (unitsOf o) unitsOfOne - 16) < gap (o - 1) := by
  have one : (0 : ℚ) < unitsOfOne := by exact_mod_cast unitsOfOne_pos
  have gap : (0 : ℚ) < gap (o - 1) := by exact_mod_cast gap_pos _
  have size : (unitsOf o : ℚ) ≤ 2 ^ 53 * Binary64.gap (o - 1) := by
    have := unitsOf_succ_le_gap (o - 1)
    rw [Nat.sub_add_cancel ho] at this
    exact_mod_cast this
  have units : 0 < unitsOf o := by
    have := unitsOf_strictMono ho
    rwa [unitsOf_zero] at this
  have power := ten_zpow_decimalExponent_le units unitsOfOne_pos
  rw [le_div_iff₀ one, mul_comm] at power
  rw [zpow_sub₀ (by norm_num), ← mul_div_assoc, div_lt_iff₀ (by norm_num)]
  calc unitsOfOne * (10 : ℚ) ^ decimalExponent (unitsOf o) unitsOfOne
      ≤ unitsOf o := power
    _ ≤ 2 ^ 53 * Binary64.gap (o - 1) := size
    _ < Binary64.gap (o - 1) * 10 ^ (16 : Int) := by
      rw [mul_comm]
      exact mul_lt_mul_of_pos_left (by norm_num) gap

/-- If the last number of digits that is tried is enough, the search ends with digits that are. -/
theorem shortestFrom_spec {exponent : Int} {rounds count : Nat}
    (last : (nearestOnGrid? tie o (exponent - (count + rounds : Nat) + 1)).isSome = true) :
    nearestOnGrid? tie o (shortestFrom tie o exponent (rounds + 1) count).2 =
      some (shortestFrom tie o exponent (rounds + 1) count).1 := by
  induction rounds generalizing count with
  | zero =>
    obtain ⟨factor, found⟩ := Option.isSome_iff_exists.mp last
    have found : nearestOnGrid? tie o (exponent - count + 1) = some factor := found
    simp only [shortestFrom, found]
  | succ rounds ih =>
    rw [shortestFrom]
    split
    · rename_i factor found
      exact found
    · exact ih (by rwa [Nat.add_right_comm])

/-- The factor and the place that the search ends with write a value that is nearest. -/
theorem near_shortestFrom (ho : 0 < o) :
    Near o (2 * unitsOfOne *
      ((shortestFrom tie o (decimalExponent (unitsOf o) unitsOfOne) 17 1).1 *
        (10 : ℚ) ^ (shortestFrom tie o (decimalExponent (unitsOf o) unitsOfOne) 17 1).2)) := by
  refine near_of_nearestOnGrid? (shortestFrom_spec ?_)
  refine isSome_nearestOnGrid? ho ?_
  convert seventeen_digits_fine ho using 3
  push_cast
  ring

/-! ## The digits -/

/-- The value that significant digits write. -/
def Digits.value (d : Digits) : ℚ :=
  Text.digitsToNat d.digits * 10 ^ (d.exponent + 1 - d.digits.length)

/-- Digits without the zeros at their end, with these zeros behind. -/
theorem dropped_zeros (digits : List Char) :
    ∃ zeros, digits =
      (digits.reverse.dropWhile (· = '0')).reverse ++ List.replicate zeros '0' := by
  have zeros : ∀ c ∈ digits.reverse.takeWhile (· = '0'), c = '0' := fun c hc => by
    simpa using List.mem_takeWhile_imp hc
  refine ⟨(digits.reverse.takeWhile (· = '0')).length, ?_⟩
  conv_lhs => rw [← List.reverse_reverse digits,
    ← List.takeWhile_append_dropWhile (p := (· = '0')) (l := digits.reverse)]
  rw [List.reverse_append, List.eq_replicate_of_mem zeros, List.reverse_replicate,
    List.length_replicate]

/-- The digits of a factor, without the zeros at their end, write the factor at its place. -/
theorem value_of_factor (factor : Nat) (place : Int) :
    Digits.value ⟨((Nat.toDigits 10 factor).reverse.dropWhile (· = '0')).reverse,
      place + (Nat.toDigits 10 factor).length - 1⟩ = factor * 10 ^ place := by
  obtain ⟨zeros, split⟩ := dropped_zeros (Nat.toDigits 10 factor)
  generalize ((Nat.toDigits 10 factor).reverse.dropWhile (· = '0')).reverse = kept at split ⊢
  have number : factor = Text.digitsToNat kept * 10 ^ zeros := by
    rw [← Text.digitsToNat_toDigits factor, split, Text.digitsToNat_append_zeros]
  have places : place + (Nat.toDigits 10 factor).length - 1 + 1 - kept.length = zeros + place := by
    rw [split, List.length_append, List.length_replicate]
    push_cast
    ring
  rw [Digits.value, places, zpow_add₀ (by norm_num), zpow_natCast, number]
  push_cast
  ring

theorem isDigit_of_mem_shortest {c : Char} (h : c ∈ (shortest tie o).digits) :
    Text.isDigit c = true := by
  unfold shortest at h
  split at h
  · rw [List.mem_singleton.mp h]
    decide
  · have : c ∈ Nat.toDigits 10
        (shortestFrom tie o (decimalExponent (unitsOf o) unitsOfOne) 17 1).1 := by
      rw [List.mem_reverse] at h
      exact List.mem_reverse.mp ((List.dropWhile_sublist _).mem h)
    exact Text.isDigit_of_mem_toDigits this

/-- The digits of a magnitude write a value that is nearest to it. -/
theorem near_shortest (tie : Tie) (o : Nat) :
    Near o (2 * unitsOfOne * (shortest tie o).value) := by
  rcases Nat.eq_zero_or_pos o with rfl | ho
  · have zero : (shortest tie 0).value = 0 := by
      have digits : Text.digitsToNat ['0'] = 0 := rfl
      simp [shortest, Digits.value, digits]
    rw [zero, mul_zero]
    exact near_zero
  · have written : (shortest tie o).value =
        (shortestFrom tie o (decimalExponent (unitsOf o) unitsOfOne) 17 1).1 *
          10 ^ (shortestFrom tie o (decimalExponent (unitsOf o) unitsOfOne) 17 1).2 := by
      rw [← value_of_factor, shortest, if_neg ho.ne']
    rw [written]
    exact near_shortestFrom ho

/-- A positive magnitude has digits, and the first of them is no zero. -/
theorem head?_shortest (ho : 0 < o) :
    (shortest tie o).digits ≠ [] ∧ (shortest tie o).digits.head? ≠ some '0' := by
  have near := near_shortest tie o
  have written := value_of_factor
    (shortestFrom tie o (decimalExponent (unitsOf o) unitsOfOne) 17 1).1
    (shortestFrom tie o (decimalExponent (unitsOf o) unitsOfOne) 17 1).2
  rw [shortest, if_neg ho.ne'] at near ⊢
  dsimp only at near ⊢
  rw [written] at near
  generalize (shortestFrom tie o (decimalExponent (unitsOf o) unitsOfOne) 17 1).1 = factor
    at near ⊢
  have positive : 0 < factor := by
    refine Nat.pos_of_ne_zero fun zero => ho.ne' (near.unique ?_)
    rw [zero, Nat.cast_zero, zero_mul, mul_zero]
    exact near_zero
  obtain ⟨zeros, split⟩ := dropped_zeros (Nat.toDigits 10 factor)
  have first := Text.head?_toDigits positive
  generalize ((Nat.toDigits 10 factor).reverse.dropWhile (· = '0')).reverse = kept at split ⊢
  rw [split] at first
  have some : kept ≠ [] := by
    rintro rfl
    have number := congrArg Text.digitsToNat split
    rw [List.nil_append, Text.digitsToNat_toDigits, Text.digitsToNat_replicate_zero] at number
    omega
  rw [List.head?_append_of_ne_nil _ some] at first
  exact ⟨some, first⟩

theorem shortest_digits_ne_nil (tie : Tie) (o : Nat) : (shortest tie o).digits ≠ [] := by
  rcases Nat.eq_zero_or_pos o with rfl | ho
  · exact List.cons_ne_nil _ _
  · exact (head?_shortest ho).1

/-- The magnitude is known from the value of its digits. -/
theorem shortest_value_injective (tie : Tie) :
    Function.Injective fun o => (shortest tie o).value := by
  intro o p same
  have same : (shortest tie o).value = (shortest tie p).value := same
  have near := near_shortest tie p
  rw [← same] at near
  exact (near_shortest tie o).unique near

end JobQueue.Binary64
