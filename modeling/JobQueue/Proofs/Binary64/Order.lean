import JobQueue.Proofs.Binary64.Rounding
import JobQueue.Word

/-!
# Doubles in order

Doubles are compared by their ranks. The doubles from one on are in order as their ordinals are, and
the product of two of them is the rounded product of their units, also where it is infinite. So
products keep order there, and none is less than either factor.

* `Binary64.le_trans`, `Binary64.le_total`: the order of all doubles but what is not a number.
* `Binary64.mul_le_mul`, `Binary64.le_mul_right` and `Binary64.one_mul`: products of doubles from
  one on.
* `Binary64.unitsOf_ordinalOfNat`: whole numbers up to `2 ^ 53` are doubles.
* `Binary64.truncate_mono`: cutting to a whole number keeps order.
* `Binary64.truncate_ofNat_le`: how far rounding can lift a whole number.
-/

namespace JobQueue.Binary64

variable {x y z x' y' : Binary64} {a b n : Nat}

/-! ## Comparing -/

theorem le_iff : x.le y = true ↔ ∃ a b, x.rank = some a ∧ y.rank = some b ∧ a ≤ b := by
  unfold le
  cases x.rank <;> cases y.rank <;> simp

protected theorem le_trans (h : x.le y = true) (h' : y.le z = true) : x.le z = true := by
  obtain ⟨a, b, hx, hy, hab⟩ := le_iff.mp h
  obtain ⟨b', c, hy', hz, hbc⟩ := le_iff.mp h'
  rw [hy, Option.some.injEq] at hy'
  exact le_iff.mpr ⟨a, c, hx, hz, hab.trans (hy' ▸ hbc)⟩

theorem exists_rank (h : x.isNaN = false) : ∃ a, x.rank = some a := by
  cases x
  · cases h
  · exact ⟨_, rfl⟩
  · exact ⟨_, rfl⟩

protected theorem le_total (hx : x.isNaN = false) (hy : y.isNaN = false) :
    x.le y = true ∨ y.le x = true := by
  obtain ⟨a, ha⟩ := exists_rank hx
  obtain ⟨b, hb⟩ := exists_rank hy
  exact (Int.le_total a b).imp (fun h => le_iff.mpr ⟨a, b, ha, hb, h⟩)
    fun h => le_iff.mpr ⟨b, a, hb, ha, h⟩

protected theorem le_refl (h : x.isNaN = false) : x.le x = true :=
  (Binary64.le_total h h).elim id id

theorem not_nan_of_le (h : x.le y = true) : x.isNaN = false ∧ y.isNaN = false := by
  obtain ⟨a, b, hx, hy, -⟩ := le_iff.mp h
  constructor
  · cases x <;> first | rfl | cases hx
  · cases y <;> first | rfl | cases hy

theorem not_nan_of_isFinite (h : x.isFinite = true) : x.isNaN = false := by
  cases x <;> first | rfl | cases h

/-! ## Numbers that are not negative -/

theorem rank_ofOrdinal (a : Nat) :
    (ofOrdinal false a).rank = some ((Min.min a ordinalBound : Nat) : Int) := by
  unfold ofOrdinal
  split
  · rename_i lt
    rw [Nat.min_eq_left lt.le]
    rfl
  · rename_i ge
    rw [Nat.min_eq_right (Nat.le_of_not_lt ge)]
    rfl

theorem ofOrdinal_le_iff : (ofOrdinal false a).le (ofOrdinal false b) = true ↔
    Min.min a ordinalBound ≤ Min.min b ordinalBound := by
  rw [le_iff, rank_ofOrdinal, rank_ofOrdinal]
  simp

theorem ofOrdinal_mono (h : a ≤ b) : (ofOrdinal false a).le (ofOrdinal false b) = true :=
  ofOrdinal_le_iff.mpr (min_le_min_right ordinalBound h)

theorem isNaN_ofOrdinal (a : Nat) : (ofOrdinal false a).isNaN = false := by
  unfold ofOrdinal
  split <;> rfl

theorem isFinite_ofOrdinal : (ofOrdinal false a).isFinite = true ↔ a < ordinalBound := by
  unfold ofOrdinal
  split <;> simp_all [isFinite]

/-! ## Whole numbers -/

/-- The ordinal of the magnitude nearest to a whole number. -/
def ordinalOfNat (n : Nat) : Nat := ordinalOfRatio (n * unitsOfOne) 1

/-- The units in one, as a power with its exponent split at will. -/
theorem unitsOfOne_eq {k : Nat} (h : 1074 = k) : unitsOfOne = 2 ^ k := by
  unfold unitsOfOne
  generalize 1074 = place at h
  subst h
  exact Nat.pow_eq

theorem binade_eq : binade = 2 ^ 52 := Nat.pow_eq

theorem ofNat_eq (n : Nat) : ofNat n = ofOrdinal false (ordinalOfNat n) := rfl

theorem one_eq : one = ofOrdinal false (ordinalOfNat 1) := rfl

theorem ordinalOfNat_mono {m : Nat} (h : m ≤ n) : ordinalOfNat m ≤ ordinalOfNat n := by
  refine ordinalOfRatio_mono (by decide) (by decide) ?_
  rw [Nat.mul_one, Nat.mul_one]
  exact Nat.mul_le_mul_right _ h

/-- A whole number that is a magnitude is not rounded. -/
theorem ordinalOfNat_of_eq {o : Nat} (h : unitsOf o = n * unitsOfOne) : ordinalOfNat n = o :=
  ordinalOfRatio_of_eq (by decide) (by rw [Nat.mul_one, h])

/-- Whole numbers of no more than `53` binary digits are magnitudes. -/
theorem unitsOf_ordinalOfNat (h : n ≤ 2 ^ 53) : unitsOf (ordinalOfNat n) = n * unitsOfOne := by
  suffices exact : ∃ o, unitsOf o = n * unitsOfOne by
    obtain ⟨o, ho⟩ := exact
    rw [ordinalOfNat_of_eq ho, ho]
  rcases Nat.eq_zero_or_pos n with rfl | pos
  · exact ⟨0, by simp⟩
  · -- the leading bit is moved to the place of `2 ^ 52`
    have low : 2 ^ n.log2 ≤ n := Nat.log2_self_le pos.ne'
    have high : n < 2 ^ (n.log2 + 1) := Nat.lt_log2_self
    refine ⟨(1074 - (52 - n.log2)) * binade + n * 2 ^ (52 - n.log2), ?_⟩
    rw [unitsOf_binade]
    · have split : 1074 = (52 - n.log2) + (1074 - (52 - n.log2)) := by omega
      rw [Nat.mul_assoc, ← Nat.pow_add, unitsOfOne_eq split]
    · have width : 2 * binade = 2 ^ 53 := rfl
      rw [width]
      rcases Nat.le_total n.log2 52 with few | many
      · calc n * 2 ^ (52 - n.log2) ≤ 2 ^ (n.log2 + 1) * 2 ^ (52 - n.log2) :=
              Nat.mul_le_mul_right _ high.le
          _ = 2 ^ 53 := by
              rw [← Nat.pow_add]
              congr 1
              omega
      · rw [Nat.sub_eq_zero_of_le many, Nat.pow_zero, Nat.mul_one]
        exact h
    · right
      rw [binade_eq]
      calc 2 ^ 52 ≤ 2 ^ (n.log2 + (52 - n.log2)) := Nat.pow_le_pow_right (by decide) (by omega)
        _ = 2 ^ n.log2 * 2 ^ (52 - n.log2) := Nat.pow_add ..
        _ ≤ n * 2 ^ (52 - n.log2) := Nat.mul_le_mul_right _ low

/-- A power of two opens a binade. -/
theorem ordinalOfNat_two_pow (k : Nat) : ordinalOfNat (2 ^ k) = (1023 + k) * binade := by
  apply ordinalOfNat_of_eq
  have split : (1023 + k) * binade = (1022 + k) * binade + binade := by
    rw [← Nat.succ_mul]
    congr 1
    omega
  obtain ⟨place, one⟩ : ∃ place, 1074 = place := ⟨_, rfl⟩
  rw [split, unitsOf_binade (by omega) (.inr le_rfl), binade_eq, unitsOfOne_eq one, ← Nat.pow_add,
    ← Nat.pow_add]
  exact congrArg (2 ^ ·) (by omega)

theorem isFinite_ofNat (h : n ≤ 2 ^ 64) : (ofNat n).isFinite = true := by
  rw [ofNat_eq, isFinite_ofOrdinal]
  have := ordinalOfNat_mono h
  rw [ordinalOfNat_two_pow] at this
  have := binade_pos
  show _ < 2047 * binade
  omega

theorem rank_ofNat (h : n ≤ 2 ^ 64) :
    (ofNat n).rank = some (ordinalOfNat n : Int) ∧ (ordinalOfNat n : Int) < ordinalBound := by
  have finite : ordinalOfNat n < ordinalBound := isFinite_ofOrdinal.mp (isFinite_ofNat h)
  rw [ofNat_eq, rank_ofOrdinal, Nat.min_eq_left finite.le]
  exact ⟨rfl, by exact_mod_cast finite⟩

theorem ofNat_mono {m : Nat} (h : m ≤ n) : (ofNat m).le (ofNat n) = true :=
  ofOrdinal_mono (ordinalOfNat_mono h)

/-! ## Products of numbers from one on -/

theorem unitsOf_ordinalOfNat_one : unitsOf (ordinalOfNat 1) = unitsOfOne := by
  rw [unitsOf_ordinalOfNat (by decide), Nat.one_mul]

theorem unitsOfOne_le (h : ordinalOfNat 1 ≤ a) : unitsOfOne ≤ unitsOf a := by
  rw [← unitsOf_ordinalOfNat_one]
  exact unitsOf_strictMono.monotone h

/-- A number from one on has an ordinal, the least one out of range if it is infinite. -/
theorem exists_ordinal (h : one.le x = true) :
    ∃ o, ordinalOfNat 1 ≤ o ∧ o ≤ ordinalBound ∧ x = ofOrdinal false o := by
  have first : ordinalOfNat 1 = 1023 * binade := ordinalOfNat_two_pow 0
  have positive := binade_pos
  have bound : ordinalBound = 2047 * binade := rfl
  obtain ⟨a, b, ha, hb, hab⟩ := le_iff.mp h
  rw [one_eq, rank_ofOrdinal, Nat.min_eq_left (by omega), Option.some.injEq] at ha
  cases x with
  | nan => cases hb
  | infinite negative =>
    cases negative
    · exact ⟨ordinalBound, by omega, le_rfl, by simp [ofOrdinal]⟩
    · simp only [rank, if_true, Option.some.injEq] at hb
      omega
  | finite negative ordinal =>
    cases negative
    · simp only [rank, Bool.false_eq_true, if_false, Option.some.injEq] at hb
      exact ⟨ordinal, by omega, ordinal.isLt.le, by simp [ofOrdinal]⟩
    · simp only [rank, if_true, Option.some.injEq] at hb
      omega

/-- The ordinal of a product, before it is cut to the finite range. -/
def product (a b : Nat) : Nat := ordinalOfRatio (unitsOf a * unitsOf b) unitsOfOne

theorem product_comm (a b : Nat) : product a b = product b a := by
  rw [product, product, Nat.mul_comm]

theorem product_mono {a' b' : Nat} (ha : a ≤ a') (hb : b ≤ b') : product a b ≤ product a' b' :=
  ordinalOfRatio_mono unitsOfOne_pos unitsOfOne_pos (Nat.mul_le_mul_right _
    (Nat.mul_le_mul (unitsOf_strictMono.monotone ha) (unitsOf_strictMono.monotone hb)))

theorem product_one (a : Nat) : product a (ordinalOfNat 1) = a :=
  ordinalOfRatio_of_eq unitsOfOne_pos (by rw [unitsOf_ordinalOfNat_one])

theorem le_product (hb : ordinalOfNat 1 ≤ b) : a ≤ product a b := by
  have := product_mono (le_refl a) hb
  rwa [product_one] at this

/-- Products of numbers from one on are products of their ordinals, finite or not. -/
theorem mul_ofOrdinal (ha : ordinalOfNat 1 ≤ a) (hb : ordinalOfNat 1 ≤ b) :
    (ofOrdinal false a).mul (ofOrdinal false b) = ofOrdinal false (product a b) := by
  have some (h : ordinalOfNat 1 ≤ 0) : False := by
    have := unitsOfOne_le h
    rw [unitsOf_zero] at this
    exact absurd unitsOfOne_pos (by omega)
  have left := le_product (a := a) hb
  have right := le_product (a := b) ha
  rw [product_comm] at right
  by_cases fa : a < ordinalBound
  · by_cases fb : b < ordinalBound
    · rw [ofOrdinal, dif_pos fa, ofOrdinal, dif_pos fb]
      rfl
    · have away : ¬product a b < ordinalBound := by omega
      have nonzero : a ≠ 0 := fun h => some (h ▸ ha)
      rw [ofOrdinal, dif_pos fa, ofOrdinal, dif_neg fb, ofOrdinal, dif_neg away]
      simp [mul, nonzero]
  · have away : ¬product a b < ordinalBound := by omega
    have nonzero : b ≠ 0 := fun h => some (h ▸ hb)
    rw [ofOrdinal, dif_neg fa, ofOrdinal.eq_def false (product a b), dif_neg away]
    unfold ofOrdinal
    split
    · simp [mul, nonzero]
    · rfl

/-- Products of numbers from one on keep order. -/
theorem mul_le_mul (hx : one.le x = true) (hxx' : x.le x' = true) (hy : one.le y = true)
    (hyy' : y.le y' = true) : (x.mul y).le (x'.mul y') = true := by
  obtain ⟨a, ha, fa, rfl⟩ := exists_ordinal hx
  obtain ⟨b, hb, fb, rfl⟩ := exists_ordinal hy
  obtain ⟨a', ha', fa', rfl⟩ := exists_ordinal (Binary64.le_trans hx hxx')
  obtain ⟨b', hb', fb', rfl⟩ := exists_ordinal (Binary64.le_trans hy hyy')
  rw [ofOrdinal_le_iff, Nat.min_eq_left fa, Nat.min_eq_left fa'] at hxx'
  rw [ofOrdinal_le_iff, Nat.min_eq_left fb, Nat.min_eq_left fb'] at hyy'
  rw [mul_ofOrdinal ha hb, mul_ofOrdinal ha' hb']
  exact ofOrdinal_mono (product_mono hxx' hyy')

theorem one_mul (hx : one.le x = true) : one.mul x = x := by
  obtain ⟨a, ha, -, rfl⟩ := exists_ordinal hx
  rw [one_eq, mul_ofOrdinal le_rfl ha, product_comm, product_one]

theorem mul_one (hx : one.le x = true) : x.mul one = x := by
  obtain ⟨a, ha, -, rfl⟩ := exists_ordinal hx
  rw [one_eq, mul_ofOrdinal ha le_rfl, product_one]

theorem one_le_one : one.le one = true := by
  rw [one_eq]
  exact ofOrdinal_mono le_rfl

/-- A product of numbers from one on is not less than its first factor. -/
theorem le_mul_right (hx : one.le x = true) (hy : one.le y = true) : x.le (x.mul y) = true := by
  have := mul_le_mul hx (Binary64.le_refl (not_nan_of_le hx).2) one_le_one hy
  rwa [mul_one hx] at this

/-- A product of numbers from one on is not less than its second factor. -/
theorem le_mul_left (hx : one.le x = true) (hy : one.le y = true) : y.le (x.mul y) = true := by
  have := mul_le_mul one_le_one hx hy (Binary64.le_refl (not_nan_of_le hy).2)
  rwa [one_mul hy] at this

theorem one_le_mul (hx : one.le x = true) (hy : one.le y = true) : one.le (x.mul y) = true :=
  Binary64.le_trans hx (le_mul_right hx hy)

/-- The product of whole numbers of no more than `53` binary digits is rounded once. -/
theorem ofNat_mul_ofNat {m : Nat} (hm : m ≤ 2 ^ 53) (hn : n ≤ 2 ^ 53) (pm : 0 < m) (pn : 0 < n) :
    (ofNat m).mul (ofNat n) = ofNat (m * n) := by
  have units : m * unitsOfOne * (n * unitsOfOne) = m * n * unitsOfOne * unitsOfOne := by ring
  rw [ofNat_eq, ofNat_eq, mul_ofOrdinal (ordinalOfNat_mono pm) (ordinalOfNat_mono pn), product,
    unitsOf_ordinalOfNat hm, unitsOf_ordinalOfNat hn, units, ofNat_eq, ordinalOfNat,
    ← ordinalOfRatio_mul_right Nat.one_pos unitsOfOne_pos, Nat.one_mul]

theorem ofNat_zero : ofNat 0 = zero := by
  rw [ofNat_eq, ordinalOfNat_of_eq (show unitsOf 0 = 0 * unitsOfOne by simp), zero]

/-- Zero times a number from one on is zero, unless that is infinite. -/
theorem zero_mul (hx : one.le x = true) : zero.mul x = if x.isFinite then zero else nan := by
  have positive : 0 < ordinalBound := Nat.mul_pos (by decide) binade_pos
  obtain ⟨a, -, -, rfl⟩ := exists_ordinal hx
  rw [zero, ofOrdinal, dif_pos positive, ofOrdinal]
  split
  · have none : ordinalOfRatio (unitsOf 0 * unitsOf a) unitsOfOne = 0 :=
      ordinalOfRatio_of_eq unitsOfOne_pos (by simp)
    show ofRatio false (unitsOf 0 * unitsOf a) unitsOfOne = _
    rw [ofRatio, none, ofOrdinal, dif_pos positive]
    rfl
  · rfl

/-- What is not above a finite number is finite. -/
theorem isFinite_of_le (hx : one.le x = true) (hxy : x.le y = true) (finite : y.isFinite = true) :
    x.isFinite = true := by
  obtain ⟨a, -, fa, rfl⟩ := exists_ordinal hx
  obtain ⟨b, -, fb, rfl⟩ := exists_ordinal (Binary64.le_trans hx hxy)
  rw [ofOrdinal_le_iff, Nat.min_eq_left fa, Nat.min_eq_left fb] at hxy
  rw [isFinite_ofOrdinal] at finite ⊢
  exact Nat.lt_of_le_of_lt hxy finite

/-! ## Cutting to a whole number -/

theorem truncate_le (top : Nat) (x : Binary64) : x.truncate top ≤ top := by
  unfold truncate
  split
  · exact Nat.zero_le _
  · split
    · exact Nat.zero_le _
    · exact le_rfl
  · split
    · exact Nat.zero_le _
    · exact Nat.min_le_right ..

/-- What a number is cut to, by its rank. -/
theorem truncate_of_rank {r : Int} (top : Nat) (h : x.rank = some r) :
    x.truncate top =
      if ordinalBound ≤ r then top else Min.min (unitsOf r.toNat / unitsOfOne) top := by
  have positive : 0 < ordinalBound := Nat.mul_pos (by decide) binade_pos
  cases x with
  | nan => cases h
  | infinite negative =>
    cases negative with
    | true =>
      simp only [rank, if_true, Option.some.injEq] at h
      rw [if_neg (by omega), show r.toNat = 0 by omega, unitsOf_zero, Nat.zero_div, Nat.zero_min]
      rfl
    | false =>
      simp only [rank, Bool.false_eq_true, if_false, Option.some.injEq] at h
      rw [if_pos (by omega)]
      rfl
  | finite negative ordinal =>
    have inside := ordinal.isLt
    cases negative with
    | true =>
      simp only [rank, if_true, Option.some.injEq] at h
      rw [if_neg (by omega), show r.toNat = 0 by omega, unitsOf_zero, Nat.zero_div, Nat.zero_min]
      rfl
    | false =>
      simp only [rank, Bool.false_eq_true, if_false, Option.some.injEq] at h
      rw [if_neg (by omega), show r.toNat = ordinal.val by omega]
      simp only [truncate, Bool.false_eq_true, if_false]

/-- Cutting to a whole number keeps order. -/
theorem truncate_mono (top : Nat) (h : x.le y = true) : x.truncate top ≤ y.truncate top := by
  obtain ⟨a, b, ha, hb, hab⟩ := le_iff.mp h
  rw [truncate_of_rank top hb]
  split
  · exact truncate_le top x
  · rw [truncate_of_rank top ha, if_neg (by omega)]
    exact min_le_min_right top (Nat.div_le_div_right (unitsOf_strictMono.monotone (by omega)))

/-- The smaller one of two numbers is cut to the smaller one of what they are cut to. -/
theorem truncate_min (top : Nat) (hx : x.isNaN = false) (hy : y.isNaN = false) :
    (x.min y).truncate top = Min.min (x.truncate top) (y.truncate top) := by
  simp only [min, hx, hy, Bool.false_eq_true, if_false]
  split
  · rename_i le
    exact (Nat.min_eq_left (truncate_mono top le)).symm
  · rename_i less
    have ge := (Binary64.le_total hx hy).resolve_left less
    exact (Nat.min_eq_right (truncate_mono top ge)).symm

theorem rank_zero : zero.rank = some 0 := by
  rw [zero, rank_ofOrdinal, Nat.zero_min, Int.natCast_zero]

/-- What is not positive is cut to zero. -/
theorem truncate_of_le_zero (top : Nat) (h : x.le zero = true) : x.truncate top = 0 := by
  have positive : 0 < ordinalBound := Nat.mul_pos (by decide) binade_pos
  have none : zero.truncate top = 0 := by
    rw [truncate_of_rank top rank_zero, if_neg (by omega), Int.toNat_zero, unitsOf_zero,
      Nat.zero_div, Nat.zero_min]
  exact Nat.eq_zero_of_le_zero (none ▸ truncate_mono top h)

/-- Negative numbers are cut to zero all the same. -/
theorem truncate_max_zero (top : Nat) (x : Binary64) :
    (x.max zero).truncate top = x.truncate top := by
  have origin := Binary64.le_refl (isNaN_ofOrdinal 0)
  have none := truncate_of_le_zero top origin
  unfold max
  split
  · rename_i nan
    cases x with
    | nan => exact none
    | infinite | finite => cases nan
  · rename_i number
    split
    · rename_i nan
      rw [zero, isNaN_ofOrdinal] at nan
    · split
      · rfl
      · rename_i negative
        have below := (Binary64.le_total (isNaN_ofOrdinal 0)
          (Bool.eq_false_iff.mpr number)).resolve_left negative
        exact none.trans (truncate_of_le_zero top below).symm

/-- Whole numbers of no more than `53` binary digits are not cut. -/
theorem truncate_ofNat (top : Nat) (h : n ≤ 2 ^ 53) : (ofNat n).truncate top = Min.min n top := by
  obtain ⟨rank, finite⟩ := rank_ofNat (h.trans (Nat.pow_le_pow_right (by decide) (by decide)))
  rw [truncate_of_rank top rank, if_neg (Int.not_le.mpr finite), Int.toNat_natCast,
    unitsOf_ordinalOfNat h, Nat.mul_div_cancel _ unitsOfOne_pos]

/-! ## Whole numbers that are rounded -/

/-- The magnitude nearest to a whole number and the one before it are not both above it. -/
theorem unitsOf_pred_add_le (n : Nat) :
    unitsOf (ordinalOfNat n - 1) + unitsOf (ordinalOfNat n) ≤ 2 * (n * unitsOfOne) := by
  have low := (@near_ordinalOfRatio (n * unitsOfOne) 1 Nat.one_pos).low_le
  rw [Nat.cast_one, div_one] at low
  exact_mod_cast low

/-- What has no more units than a whole number is cut to no more than it. -/
theorem truncate_le_of_units {r : Int} (top : Nat) (h : x.rank = some r) (finite : r < ordinalBound)
    (units : unitsOf r.toNat ≤ n * unitsOfOne) : x.truncate top ≤ n := by
  rw [truncate_of_rank top h, if_neg (by omega)]
  rw [Nat.mul_comm] at units
  exact (Nat.min_le_left ..).trans (Nat.div_le_of_le_mul units)

/-- What is below the double of a whole number is cut to no more than that number, even if the
double is above it. -/
theorem truncate_le_of_not_le (top : Nat) (hx : x.isNaN = false) (h : (ofNat n).le x = false) :
    x.truncate top ≤ n := by
  obtain ⟨r, hr⟩ := exists_rank hx
  have below : r < (Min.min (ordinalOfNat n) ordinalBound : Nat) := by
    by_contra above
    have le := le_iff.mpr ⟨_, r, rank_ofOrdinal _, hr, Int.not_lt.mp above⟩
    rw [ofNat_eq, le] at h
    cases h
  refine truncate_le_of_units top hr (by omega) ?_
  have before : unitsOf r.toNat ≤ unitsOf (ordinalOfNat n - 1) :=
    unitsOf_strictMono.monotone (by omega)
  have within : unitsOf (ordinalOfNat n - 1) ≤ unitsOf (ordinalOfNat n) :=
    unitsOf_strictMono.monotone (Nat.sub_le ..)
  have := unitsOf_pred_add_le n
  omega

/-- Of `64` binary digits, rounding moves no more than the last `11`, by half of them. -/
theorem unitsOf_ordinalOfNat_le (fits : n ≤ 2 ^ 64) :
    unitsOf (ordinalOfNat n) ≤ (n + 1024) * unitsOfOne := by
  have half := unitsOf_pred_add_le n
  have last := ordinalOfNat_mono fits
  rw [ordinalOfNat_two_pow] at last
  rw [Nat.add_mul]
  generalize ordinalOfNat n = o at half last ⊢
  rcases o with _ | p
  · rw [unitsOf_zero]
    exact Nat.zero_le _
  · have step : gap p ≤ 2 * (1024 * unitsOfOne) := by
      have early : p / binade < 1087 := Nat.div_lt_of_lt_mul (by rw [Nat.mul_comm]; omega)
      obtain ⟨place, one⟩ : ∃ place, 1074 = place := ⟨_, rfl⟩
      calc gap p ≤ 2 ^ (11 + place) := Nat.pow_le_pow_right (by decide) (by omega)
        _ = 2 * (1024 * 2 ^ place) := by
            rw [Nat.pow_add]
            ring
        _ = 2 * (1024 * unitsOfOne) := by rw [unitsOfOne_eq one]
    rw [Nat.add_sub_cancel, unitsOf_succ] at half
    rw [unitsOf_succ]
    omega

/-- The double of a number of `64` binary digits is cut to at most `1024` more. -/
theorem truncate_ofNat_le (top : Nat) (fits : n ≤ 2 ^ 64) : (ofNat n).truncate top ≤ n + 1024 := by
  obtain ⟨rank, finite⟩ := rank_ofNat fits
  refine truncate_le_of_units top rank finite ?_
  rw [Int.toNat_natCast]
  exact unitsOf_ordinalOfNat_le fits

end JobQueue.Binary64
