import JobQueue.Proofs.Binary64.Units

/-!
# Rounding to a magnitude

The magnitude that a ratio is rounded to is the one nearest to it, a tie going to the even ordinal.
That is all that is ever needed of rounding: it keeps order, and it keeps what is a magnitude
already.

* `Binary64.near_ordinalOfRatio`: a ratio is rounded to the magnitude nearest to it.
* `Binary64.ordinalOfRatio_mono`: of two ratios, the larger one is not rounded to less.
* `Binary64.ordinalOfRatio_of_eq`: a magnitude is rounded to itself.
-/

namespace JobQueue.Binary64

/-! ## The nearest whole number -/

section

variable {num den : Nat}

/-- A ratio is at most one half away from the nearest whole number, and less than that if this one
is odd. -/
theorem roundHalfEven_near (hden : 0 < den) :
    let q := roundHalfEven num den
    if q % 2 = 0 then 2 * q * den ≤ 2 * num + den ∧ 2 * num ≤ 2 * q * den + den
    else 2 * q * den < 2 * num + den ∧ 2 * num < 2 * q * den + den := by
  have split : num / den * den + num % den = num := Nat.div_add_mod' num den
  have inside : num % den < den := Nat.mod_lt num hden
  have double (k : Nat) : 2 * k * den = 2 * (k * den) := Nat.mul_assoc 2 k den
  have next : (num / den + 1) * den = num / den * den + den := Nat.succ_mul _ _
  dsimp only
  rw [double]
  unfold roundHalfEven
  dsimp only
  split
  · split <;> omega
  · split
    · rw [next]
      split <;> omega
    · -- a tie goes to the even one of the two
      rcases Nat.mod_two_eq_zero_or_one (num / den) with even | odd
      · rw [even, Nat.add_zero, if_pos even]
        omega
      · rw [odd, if_pos (by omega), next]
        omega

end

/-! ## The magnitudes of a binade -/

/-- The magnitudes from one power of two to the next are the multiples of their distance. -/
theorem unitsOf_binade {shift m : Nat} (le : m ≤ 2 * binade) (ge : shift = 0 ∨ binade ≤ m) :
    unitsOf (shift * binade + m) = m * 2 ^ shift := by
  have positive := binade_pos
  rw [unitsOf_eq, gap]
  rcases le.lt_or_eq with lt | rfl
  · have quotient : (shift * binade + m) / binade - 1 = shift := by
      rw [Nat.add_comm, Nat.add_mul_div_right _ _ positive]
      rcases ge with rfl | ge
      · have : m / binade < 2 := Nat.div_lt_of_lt_mul (by omega)
        omega
      · have : m / binade = 1 := Nat.div_eq_of_lt_le (by omega) (by omega)
        omega
    rw [quotient, Nat.add_sub_cancel_left]
    rfl
  · -- the last one opens the next binade
    have quotient : (shift * binade + 2 * binade) / binade - 1 = shift + 1 := by
      rw [← Nat.add_mul, Nat.mul_div_cancel _ positive]
      rfl
    have rest : shift * binade + 2 * binade - (shift + 1) * binade = binade := by
      have : (shift + 1) * binade = shift * binade + binade := Nat.succ_mul _ _
      omega
    rw [quotient, rest, Nat.pow_eq, Nat.pow_succ]
    ring

/-- The next magnitude is a step of the binade away, or more. -/
theorem unitsOf_binade_succ {shift m : Nat} (ge : shift = 0 ∨ binade ≤ m) :
    unitsOf (shift * binade + m) + 2 ^ shift ≤ unitsOf (shift * binade + m + 1) := by
  rw [unitsOf_succ]
  refine Nat.add_le_add_left (Nat.pow_le_pow_right (by decide) ?_) _
  rcases ge with rfl | ge
  · exact Nat.zero_le _
  · have : shift + 1 ≤ (shift * binade + m) / binade := by
      rw [Nat.le_div_iff_mul_le binade_pos, Nat.succ_mul]
      omega
    omega

/-- The magnitude before is a step of the binade away, unless this one is the first in it. -/
theorem unitsOf_binade_pred {shift m : Nat} (le : m ≤ 2 * binade) (pos : 0 < m)
    (gt : shift = 0 ∨ binade < m) :
    unitsOf (shift * binade + m - 1) + 2 ^ shift = m * 2 ^ shift := by
  obtain ⟨k, rfl⟩ := Nat.exists_eq_add_one.mpr pos
  rw [← Nat.add_assoc, Nat.add_sub_cancel, unitsOf_binade (by omega) (by omega), Nat.succ_mul]

/-! ## The nearest magnitude -/

section

variable {num den : Nat}

/-- The place of the leading bit says how far apart the magnitudes near a ratio are: too far for
more than `2 ^ 53` steps of that size to fit below it, and, if that is more than one unit, not too
far for `2 ^ 52`. -/
theorem leading_bit (hden : 0 < den) :
    num < 2 * binade * (den * 2 ^ ((num / den).log2 - 52)) ∧
      ((num / den).log2 - 52 = 0 ∨ binade * (den * 2 ^ ((num / den).log2 - 52)) ≤ num) := by
  have wide : 2 * binade = 2 ^ 53 := rfl
  have narrow : binade = 2 ^ 52 := rfl
  constructor
  · have lt : num / den < 2 ^ ((num / den).log2 + 1) := Nat.lt_log2_self
    have le : 2 ^ ((num / den).log2 + 1) ≤ 2 ^ (53 + ((num / den).log2 - 52)) :=
      Nat.pow_le_pow_right (by decide) (by omega)
    have := (Nat.div_lt_iff_lt_mul hden).mp (lt.trans_le le)
    rw [wide]
    calc num < 2 ^ (53 + ((num / den).log2 - 52)) * den := this
      _ = 2 ^ 53 * (den * 2 ^ ((num / den).log2 - 52)) := by rw [Nat.pow_add]; ring
  · rcases Nat.eq_zero_or_pos ((num / den).log2 - 52) with zero | pos
    · exact .inl zero
    · right
      have some : num / den ≠ 0 := by
        intro none
        rw [none] at pos
        exact absurd pos (by decide)
      have le := (Nat.le_div_iff_mul_le hden).mp (Nat.log2_self_le some)
      have split : (num / den).log2 = 52 + ((num / den).log2 - 52) := by omega
      rw [narrow]
      calc 2 ^ 52 * (den * 2 ^ ((num / den).log2 - 52))
          = 2 ^ (52 + ((num / den).log2 - 52)) * den := by rw [Nat.pow_add]; ring
        _ = 2 ^ (num / den).log2 * den := by rw [← split]
        _ ≤ num := le

/-- **A ratio is rounded to the magnitude nearest to it**, a tie going to the even one. -/
theorem near_ordinalOfRatio (hden : 0 < den) :
    Near (ordinalOfRatio num den) (2 * (num / den : ℚ)) := by
  obtain ⟨below, above⟩ := @leading_bit num den hden
  unfold ordinalOfRatio
  dsimp only
  generalize (num / den).log2 - 52 = shift at below above ⊢
  have hstep : 0 < den * 2 ^ shift := Nat.mul_pos hden (Nat.two_pow_pos shift)
  have near := @roundHalfEven_near num _ hstep
  rw [Nat.pow_eq]
  generalize roundHalfEven num (den * 2 ^ shift) = m at near ⊢
  dsimp only at near
  have weak : 2 * m * (den * 2 ^ shift) ≤ 2 * num + den * 2 ^ shift ∧
      2 * num ≤ 2 * m * (den * 2 ^ shift) + den * 2 ^ shift := by
    split at near
    · exact near
    · exact ⟨near.1.le, near.2.le⟩
  have le : m ≤ 2 * binade := by
    by_contra more
    have := Nat.mul_le_mul_right (den * 2 ^ shift) (show 2 * (2 * binade) + 2 ≤ 2 * m by omega)
    rw [Nat.add_mul, Nat.mul_assoc 2] at this
    omega
  have ge : shift = 0 ∨ binade ≤ m := by
    refine above.imp_right fun above => ?_
    by_contra less
    have := Nat.mul_le_mul_right (den * 2 ^ shift) (show 2 * m + 2 ≤ 2 * binade by omega)
    rw [Nat.add_mul, Nat.mul_assoc 2 binade] at this
    omega
  have parity : (shift * binade + m) % 2 = m % 2 := by
    have even : binade % 2 = 0 := by decide
    rw [Nat.add_mod, Nat.mul_mod, even, Nat.mul_zero, Nat.zero_mod, Nat.zero_add, Nat.mod_mod]
  have here : unitsOf (shift * binade + m) * den = m * (den * 2 ^ shift) := by
    rw [unitsOf_binade le ge]
    ring
  have high : m * (den * 2 ^ shift) + den * 2 ^ shift ≤
      unitsOf (shift * binade + m + 1) * den := by
    have := Nat.mul_le_mul_right den (unitsOf_binade_succ ge)
    rw [Nat.add_mul, here, Nat.mul_comm (2 ^ shift)] at this
    exact this
  -- the magnitude before is a step below, unless the ratio reaches as far as this one
  have low : unitsOf (shift * binade + m - 1) * den + den * 2 ^ shift = m * (den * 2 ^ shift) ∨
      m % 2 = 0 ∧ unitsOf (shift * binade + m - 1) * den + m * (den * 2 ^ shift) ≤ 2 * num := by
    by_cases first : 0 < m ∧ (shift = 0 ∨ binade < m)
    · left
      rw [Nat.mul_comm den, ← Nat.add_mul, unitsOf_binade_pred le first.1 first.2]
      ring
    · right
      have least : m = 0 ∧ shift = 0 ∨ m = binade ∧ binade * (den * 2 ^ shift) ≤ num := by
        have := binade_pos
        omega
      have before : unitsOf (shift * binade + m - 1) * den ≤ m * (den * 2 ^ shift) := by
        rw [← here]
        exact Nat.mul_le_mul_right den (unitsOf_strictMono.monotone (Nat.sub_le ..))
      rcases least with ⟨rfl, -⟩ | ⟨rfl, reached⟩
      · rw [Nat.zero_mul] at before ⊢
        omega
      · exact ⟨by decide, by omega⟩
  rw [← mul_div_assoc, ← Nat.cast_ofNat, ← Nat.cast_mul, near_div_iff hden, parity,
    Nat.add_mul, Nat.add_mul, here]
  rw [Nat.mul_assoc 2 m] at near
  generalize den * 2 ^ shift = step at near low high ⊢
  split at near
  · rename_i even
    rw [if_pos even]
    omega
  · rename_i odd
    rw [if_neg odd]
    omega

/-! ## What rounding keeps -/

/-- Rounding keeps order. -/
theorem ordinalOfRatio_mono {num' den' : Nat} (hden : 0 < den) (hden' : 0 < den')
    (h : num * den' ≤ num' * den) : ordinalOfRatio num den ≤ ordinalOfRatio num' den' := by
  by_contra less
  have before := (@near_ordinalOfRatio num' den' hden').lt_of_lt
    (@near_ordinalOfRatio num den hden) (Nat.lt_of_not_le less)
  have positive : (0 : ℚ) < den := by exact_mod_cast hden
  have positive' : (0 : ℚ) < den' := by exact_mod_cast hden'
  have ratios : (num / den : ℚ) ≤ num' / den' := by
    rw [div_le_div_iff₀ positive positive']
    exact_mod_cast h
  linarith

/-- Rounding depends on the value of a ratio alone. -/
theorem ordinalOfRatio_mul_right {k : Nat} (hden : 0 < den) (hk : 0 < k) :
    ordinalOfRatio (num * k) (den * k) = ordinalOfRatio num den := by
  have hdk : 0 < den * k := Nat.mul_pos hden hk
  exact Nat.le_antisymm (ordinalOfRatio_mono hdk hden (by rw [Nat.mul_right_comm, Nat.mul_assoc]))
    (ordinalOfRatio_mono hden hdk (by rw [Nat.mul_right_comm, Nat.mul_assoc]))

/-- A magnitude is nearest to itself. -/
theorem near_unitsOf (o : Nat) : Near o (2 * unitsOf o) := by
  have before : (unitsOf (o - 1) : ℚ) ≤ unitsOf o := by
    exact_mod_cast unitsOf_strictMono.monotone (Nat.sub_le ..)
  have behind : (unitsOf o : ℚ) < unitsOf (o + 1) := by
    exact_mod_cast unitsOf_strictMono (Nat.lt_succ_self o)
  unfold Near
  split
  · constructor <;> linarith
  · rename_i odd
    have strict : (unitsOf (o - 1) : ℚ) < unitsOf o := by
      exact_mod_cast unitsOf_strictMono (by omega)
    constructor <;> linarith

/-- **A magnitude is rounded to itself.** -/
theorem ordinalOfRatio_of_eq {o : Nat} (hden : 0 < den) (h : num = unitsOf o * den) :
    ordinalOfRatio num den = o := by
  have positive : (den : ℚ) ≠ 0 := by exact_mod_cast hden.ne'
  have near := @near_ordinalOfRatio num den hden
  rw [h, Nat.cast_mul, mul_div_cancel_right₀ _ positive] at near
  rw [h]
  exact near.unique (near_unitsOf o)

end

end JobQueue.Binary64
