import JobQueue.Proofs.Binary64.Order
import Mathlib.Order.Interval.Set.Basic

/-!
# Powers of doubles

A power is taken by squaring and multiplying, each product being rounded on its own. Neighbouring
exponents are made up of different squares, so that it takes an argument why a larger exponent gives
no smaller power: what is multiplied up over a run of odd halves never passes the next square.

* `Binary64.pow_mono`: the powers of a number from one on grow with the exponent.
* `Binary64.Tracks`: a double is a whole number of at most `53` binary digits, or is past them all
  as that number is. `Binary64.Tracks.mul` and `Binary64.Tracks.pow`: so it stays.
-/

namespace JobQueue.Binary64

variable {x y r r' : Binary64} {bits n a b v w : Nat}

/-! ## Rounds -/

/-- Once nothing is left of the exponent, the power is done. -/
theorem powLoop_zero (bits : Nat) (r x : Binary64) : powLoop bits r x 0 = r := by
  cases bits <;> simp [powLoop]

/-- One round. That the last one does not square makes no difference. -/
theorem powLoop_succ (bits : Nat) (r x : Binary64) (n : Nat) :
    powLoop (bits + 1) r x n =
      powLoop bits (if n % 2 = 1 then r.mul x else r) (x.mul x) (n / 2) := by
  rw [powLoop]
  split
  · rename_i last
    rw [last, powLoop_zero]
  · rfl

/-! ## Larger exponents -/

theorem one_le_powLoop (hr : one.le r = true) (hx : one.le x = true) :
    one.le (powLoop bits r x n) = true := by
  induction bits generalizing r x n with
  | zero => exact hr
  | succ bits ih =>
    rw [powLoop_succ]
    refine ih ?_ (one_le_mul hx hx)
    split
    · exact one_le_mul hr hx
    · exact hr

/-- What has been multiplied up so far counts. -/
theorem powLoop_mono (hr : one.le r = true) (hrr' : r.le r' = true) (hx : one.le x = true) :
    (powLoop bits r x n).le (powLoop bits r' x n) = true := by
  induction bits generalizing r r' x n with
  | zero => exact hrr'
  | succ bits ih =>
    rw [powLoop_succ, powLoop_succ]
    have same := Binary64.le_refl (not_nan_of_le hx).2
    split
    · exact ih (one_le_mul hr hx) (mul_le_mul hr hrr' hx same) (one_le_mul hx hx)
    · exact ih hr hrr' (one_le_mul hx hx)

/-- What has been multiplied up is not more than the next square, and the next exponent takes that
square instead, or has its lowest bit on top. -/
theorem powLoop_le_succ (hr : one.le r = true) (hrx : r.le x = true) (fits : n + 1 < 2 ^ bits) :
    (powLoop bits r x n).le (powLoop bits one x (n + 1)) = true := by
  induction bits generalizing r x n with
  | zero => simp at fits
  | succ bits ih =>
    have hx := Binary64.le_trans hr hrx
    have same := Binary64.le_refl (not_nan_of_le hx).2
    rw [Nat.pow_succ] at fits
    rw [powLoop_succ, powLoop_succ]
    rcases Nat.mod_two_eq_zero_or_one n with even | odd
    · rw [if_neg (by omega), if_pos (by omega), one_mul hx, show (n + 1) / 2 = n / 2 by omega]
      exact powLoop_mono hr hrx (one_le_mul hx hx)
    · rw [if_pos odd, if_neg (by omega), show (n + 1) / 2 = n / 2 + 1 by omega]
      exact ih (one_le_mul hr hx) (mul_le_mul hr hrx hx same) (by omega)

theorem one_le_pow (hx : one.le x = true) (n : Nat) : one.le (x.pow n) = true :=
  one_le_powLoop one_le_one hx

/-- **Powers grow with the exponent**, for all that every product is rounded. -/
theorem pow_mono {m : Nat} (hx : one.le x = true) (h : m ≤ n) (fits : n < 2 ^ 32) :
    (x.pow m).le (x.pow n) = true := by
  induction n, h using Nat.le_induction with
  | base => exact Binary64.le_refl (not_nan_of_le (one_le_pow hx m)).2
  | succ n _ ih =>
    exact Binary64.le_trans (ih (by omega)) (powLoop_le_succ one_le_one hx fits)

/-! ## Whole numbers -/

/-- A double is a whole number as long as that has at most `53` binary digits, and is past all of
those as soon as the number is. -/
def Tracks (x : Binary64) (v : Nat) : Prop :=
  if v ≤ 2 ^ 53 then x = ofNat v else (ofNat (2 ^ 53)).le x = true

theorem tracks_ofNat (h : v ≤ 2 ^ 53) : (ofNat v).Tracks v := by rw [Tracks, if_pos h]

theorem Tracks.eq (hx : x.Tracks v) (h : v ≤ 2 ^ 53) : x = ofNat v := by
  rwa [Tracks, if_pos h] at hx

/-- What is tracked from some whole number on is not less than that. -/
theorem Tracks.le (hx : x.Tracks v) (hn : n ≤ v) (small : n ≤ 2 ^ 53) :
    (ofNat n).le x = true := by
  unfold Tracks at hx
  split at hx
  · rw [hx]
    exact ofNat_mono hn
  · exact Binary64.le_trans (ofNat_mono small) hx

theorem Tracks.one_le (hx : x.Tracks v) (pos : 0 < v) : one.le x = true :=
  hx.le pos (Nat.one_le_two_pow)

/-- Products of whole numbers are exact, and once past `53` binary digits they stay there. -/
theorem Tracks.mul (hx : x.Tracks v) (hy : y.Tracks w) (hv : 0 < v) (hw : 0 < w) :
    (x.mul y).Tracks (v * w) := by
  have one_x := hx.one_le hv
  have one_y := hy.one_le hw
  have le_v : v ≤ v * w := Nat.le_mul_of_pos_right v hw
  have le_w : w ≤ v * w := Nat.le_mul_of_pos_left w hv
  unfold Tracks
  split
  · rename_i small
    rw [hx.eq (le_v.trans small), hy.eq (le_w.trans small),
      ofNat_mul_ofNat (le_v.trans small) (le_w.trans small) hv hw]
  · rename_i large
    by_cases short_v : v ≤ 2 ^ 53
    · by_cases short_w : w ≤ 2 ^ 53
      · rw [hx.eq short_v, hy.eq short_w, ofNat_mul_ofNat short_v short_w hv hw]
        exact ofNat_mono (Nat.le_of_not_le large)
      · exact Binary64.le_trans (hy.le (Nat.le_of_not_le short_w) le_rfl) (le_mul_left one_x one_y)
    · exact Binary64.le_trans (hx.le (Nat.le_of_not_le short_v) le_rfl) (le_mul_right one_x one_y)

theorem Tracks.powLoop (hr : r.Tracks a) (hx : x.Tracks b) (ha : 0 < a) (hb : 0 < b)
    (fits : n < 2 ^ bits) : (powLoop bits r x n).Tracks (a * b ^ n) := by
  induction bits generalizing r x n a b with
  | zero =>
    rw [Nat.pow_zero, Nat.lt_one_iff] at fits
    rw [fits, Nat.pow_zero, Nat.mul_one]
    exact hr
  | succ bits ih =>
    rw [Nat.pow_succ] at fits
    have squares : b ^ n = b ^ (n % 2) * (b * b) ^ (n / 2) := by
      rw [← pow_two, ← Nat.pow_mul, ← Nat.pow_add, Nat.mod_add_div]
    rw [powLoop_succ, squares, ← Nat.mul_assoc]
    refine ih ?_ (hx.mul hx hb hb) (Nat.mul_pos ha (Nat.pow_pos hb)) (Nat.mul_pos hb hb) (by omega)
    split
    · rename_i odd
      rw [odd, Nat.pow_one]
      exact hr.mul hx ha hb
    · rename_i even
      rw [show n % 2 = 0 by omega, Nat.pow_zero, Nat.mul_one]
      exact hr

/-- **Powers of whole numbers** are whole numbers, as long as these have at most `53` binary
digits. -/
theorem Tracks.pow (hx : x.Tracks b) (hb : 0 < b) (fits : n < 2 ^ 32) :
    (x.pow n).Tracks (b ^ n) := by
  have := (tracks_ofNat (v := 1) Nat.one_le_two_pow).powLoop hx Nat.one_pos hb fits
  rwa [Nat.one_mul] at this

/-- The double is this whole number. -/
def IsWhole (x : Binary64) (k : Nat) : Prop :=
  ∃ ordinal, x = .finite false ordinal ∧ unitsOf ordinal.val = k * unitsOfOne

theorem isWhole_ofNat (h : v ≤ 2 ^ 53) : (ofNat v).IsWhole v := by
  have fits : v ≤ 2 ^ 64 := h.trans (Nat.pow_le_pow_right (by decide) (by decide))
  have finite : ordinalOfNat v < ordinalBound := isFinite_ofOrdinal.mp (isFinite_ofNat fits)
  refine ⟨⟨ordinalOfNat v, finite⟩, ?_, unitsOf_ordinalOfNat h⟩
  rw [ofNat_eq, ofOrdinal, dif_pos finite]

theorem IsWhole.tracks (h : x.IsWhole b) : x.Tracks b := by
  obtain ⟨ordinal, rfl, units⟩ := h
  have value : finite false ordinal = ofOrdinal false ordinal.val := by simp [ofOrdinal]
  have same := ordinalOfNat_of_eq units
  unfold Tracks
  split
  · rw [value, ← same, ofNat_eq]
  · rename_i large
    rw [value, ← same, ← ofNat_eq]
    exact ofNat_mono (Nat.le_of_not_le large)

/-- A whole number from one on is not zero. -/
theorem IsWhole.pos (h : x.IsWhole b) (hx : one.le x = true) : 0 < b := by
  obtain ⟨a, ha, -, value⟩ := exists_ordinal hx
  obtain ⟨ordinal, rfl, units⟩ := h
  have same : ordinal.val = a := by
    unfold ofOrdinal at value
    split at value <;> cases value
    rfl
  by_contra none
  rw [Nat.eq_zero_of_not_pos none, Nat.zero_mul, same] at units
  have := unitsOfOne_le ha
  rw [units] at this
  exact absurd unitsOfOne_pos (Nat.not_lt.mpr this)

end JobQueue.Binary64
