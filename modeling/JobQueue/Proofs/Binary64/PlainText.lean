import JobQueue.Proofs.Binary64.Layout
import JobQueue.Proofs.Binary64.Rounding

/-!
# A double is read back from its plain text

In plain text a double has no exponent, however many zeros that takes, and no point behind a whole
number. What such a text writes is nearest to the double, and so the double is what is read from it.

* `Binary64.ofDecimal_of_near`: a decimal that is nearest to a magnitude is read as it.
* `Binary64.ofText?_write`: the plain text of a double is read as the double.
* `Binary64.magnitude_of_whole`: if the plain text has no point, it is that of a natural number.
-/

namespace JobQueue.Binary64

open Text

variable {o mantissa : Nat} {exponent : Int}

/-! ## Decimals out of all proportion -/

/-- A power of ten above all magnitudes, and whose inverse is nearest to zero. -/
def beyond : Nat := 10 ^ 400

theorem beyond_eq : ∃ n, n = 400 ∧ beyond = 10 ^ n := ⟨400, rfl, rfl⟩

theorem beyond_pos : (0 : ℚ) < beyond := by
  obtain ⟨n, -, eq⟩ := beyond_eq
  rw [eq]
  positivity

theorem ten_zpow_beyond : (10 : ℚ) ^ (400 : Int) = beyond := by
  obtain ⟨n, four_hundred, eq⟩ := beyond_eq
  rw [eq, show (400 : Int) = n by omega, zpow_natCast, Nat.cast_pow]
  rfl

theorem two_units_pos : (0 : ℚ) < 2 * unitsOfOne :=
  mul_pos two_pos (by exact_mod_cast unitsOfOne_pos)

theorem Near.lt_beyond {value : ℚ} (near : Near o (2 * unitsOfOne * value))
    (finite : o < ordinalBound) : value < beyond := by
  have top : unitsOf ordinalBound < unitsOfOne * beyond := by decide +kernel
  have lower : unitsOf o ≤ unitsOf ordinalBound := unitsOf_strictMono.monotone finite.le
  have upper : unitsOf (o + 1) ≤ unitsOf ordinalBound := unitsOf_strictMono.monotone finite
  have both : (unitsOf o + unitsOf (o + 1) : ℚ) < 2 * unitsOfOne * beyond := by
    have : unitsOf o + unitsOf (o + 1) < 2 * unitsOfOne * beyond := by
      rw [Nat.mul_assoc]
      omega
    exact_mod_cast this
  exact lt_of_mul_lt_mul_left (near.le_high.trans_lt both) two_units_pos.le

/-- What is at most half the first magnitude is nearest to zero. -/
theorem near_zero_of_le {value : ℚ} (nonneg : 0 ≤ value) (small : value ≤ 1) : Near 0 value := by
  have first : unitsOf 1 = 1 := by decide +kernel
  simp [Near, first, nonneg, small]

/-- A decimal lies between the powers of ten that its length tells. -/
theorem ten_zpow_le_decimal (positive : 0 < mantissa) :
    (10 : ℚ) ^ (exponent + (Nat.toDigits 10 mantissa).length - 1) ≤ mantissa * 10 ^ exponent ∧
      (mantissa * 10 ^ exponent : ℚ) <
        10 ^ (exponent + (Nat.toDigits 10 mantissa).length) := by
  have some : 0 < (Nat.toDigits 10 mantissa).length := Nat.length_toDigits_pos
  have below := lt_ten_pow mantissa
  have above := ten_pow_le positive
  generalize (Nat.toDigits 10 mantissa).length = length at some below above ⊢
  have scale : (0 : ℚ) < 10 ^ exponent := by positivity
  constructor
  · rw [show exponent + length - 1 = (length - 1 : Nat) + exponent by omega,
      zpow_add₀ (by norm_num), zpow_natCast]
    exact mul_le_mul_of_nonneg_right (by exact_mod_cast above) scale.le
  · rw [Int.add_comm, zpow_add₀ (by norm_num), zpow_natCast]
    exact mul_lt_mul_of_pos_right (by exact_mod_cast below) scale

/-- A decimal with so many places before its point is nearest to no magnitude. -/
theorem Near.places_le (near : Near o (2 * unitsOfOne * (mantissa * (10 : ℚ) ^ exponent)))
    (finite : o < ordinalBound) (positive : 0 < mantissa) :
    exponent + (Nat.toDigits 10 mantissa).length ≤ 400 := by
  by_contra large
  have ten : (10 : ℚ) ^ (400 : Int) ≤ mantissa * 10 ^ exponent :=
    (zpow_le_zpow_right₀ (by norm_num) (by omega)).trans (ten_zpow_le_decimal positive).1
  rw [ten_zpow_beyond] at ten
  exact absurd (near.lt_beyond finite) ten.not_gt

/-- A decimal with so many zeros behind its point is nearest to zero. -/
theorem near_zero_of_places (positive : 0 < mantissa)
    (small : exponent + (Nat.toDigits 10 mantissa).length < -400) :
    Near 0 (2 * unitsOfOne * (mantissa * (10 : ℚ) ^ exponent)) := by
  have below : (mantissa * 10 ^ exponent : ℚ) ≤ 10 ^ (-400 : Int) :=
    (ten_zpow_le_decimal positive).2.le.trans (zpow_le_zpow_right₀ (by norm_num) (by omega))
  have units : 2 * unitsOfOne ≤ beyond := by decide +kernel
  have least : (2 * unitsOfOne : ℚ) ≤ beyond := by exact_mod_cast units
  have nonneg : (0 : ℚ) ≤ mantissa * 10 ^ exponent := by positivity
  rw [zpow_neg, ten_zpow_beyond] at below
  refine near_zero_of_le (mul_nonneg two_units_pos.le nonneg) ?_
  calc 2 * unitsOfOne * (mantissa * (10 : ℚ) ^ exponent)
      ≤ beyond * (beyond : ℚ)⁻¹ := mul_le_mul least below nonneg beyond_pos.le
    _ = 1 := mul_inv_cancel₀ beyond_pos.ne'

/-! ## Reading decimals -/

/-- A decimal that is nearest to a magnitude is read as it. -/
theorem ofDecimal_of_near (negative : Bool) (finite : o < ordinalBound)
    (near : Near o (2 * unitsOfOne * (mantissa * (10 : ℚ) ^ exponent))) :
    ofDecimal negative mantissa exponent = .finite negative ⟨o, finite⟩ := by
  have is {p : Nat} (same : Near p (2 * unitsOfOne * (mantissa * (10 : ℚ) ^ exponent))) :
      ofOrdinal negative p = .finite negative ⟨o, finite⟩ := by
    obtain rfl := same.unique near
    exact dif_pos finite
  have ratio {num den : Nat} (some : 0 < den)
      (same : (2 * unitsOfOne * (mantissa * 10 ^ exponent) : ℚ) = 2 * (num / den)) :
      ofOrdinal negative (ordinalOfRatio num den) = .finite negative ⟨o, finite⟩ :=
    is (same ▸ near_ordinalOfRatio some)
  unfold ofDecimal
  split
  · rename_i none
    rw [none, Nat.cast_zero, zero_mul, mul_zero] at is
    exact is near_zero
  · rename_i some
    have positive := Nat.pos_of_ne_zero some
    dsimp only
    split
    · rename_i large
      exact absurd (near.places_le finite positive) (by omega)
    · split
      · rename_i small
        exact is (near_zero_of_places positive small)
      · split
        · rename_i whole
          refine ratio Nat.one_pos ?_
          rw [ten_zpow, show (-exponent).toNat = 0 by omega]
          push_cast [Nat.pow_eq]
          ring
        · rename_i fraction
          refine ratio (Nat.pow_pos (by decide)) ?_
          rw [ten_zpow, show exponent.toNat = 0 by omega]
          push_cast [Nat.pow_eq]
          ring

/-! ## The plain text of a magnitude -/

variable {negative : Bool} {whole fraction : List Char}

/-- Digits are read as the number that they write. -/
theorem magnitudeOfText?_whole (some_digit : whole ≠ []) (all : ∀ c ∈ whole, isDigit c = true) :
    magnitudeOfText? negative whole = some (ofDecimal negative (digitsToNat whole) 0) := by
  simp [magnitudeOfText?, spanDigits_of_all all, some_digit, exponentOf?]

/-- Digits, a point and more digits are read as the decimal that they write. -/
theorem magnitudeOfText?_point (some_digit : whole ≠ [])
    (allWhole : ∀ c ∈ whole, isDigit c = true) (allFraction : ∀ c ∈ fraction, isDigit c = true) :
    magnitudeOfText? negative (whole ++ '.' :: fraction) =
      some (ofDecimal negative (digitsToNat (whole ++ fraction)) (-fraction.length)) := by
  have first : spanDigits (whole ++ '.' :: fraction) = (whole, '.' :: fraction) :=
    spanDigits_append allWhole (by simp [isDigit])
  simp [magnitudeOfText?, first, spanDigits_of_all allFraction, some_digit, exponentOf?]

/-- The plain text of a magnitude is its digits, written in full without a point behind a whole
number. -/
theorem plain_parts (o : Nat) : ∃ whole fraction,
    (shortest .up o).Parts false whole fraction ∧
      Layout.plain.magnitude o = if fraction = [] then whole else whole ++ '.' :: fraction := by
  obtain ⟨whole, fraction, parts⟩ := Digits.exists_parts (d := shortest .up o)
    (fun c => isDigit_of_mem_shortest) (shortest_digits_ne_nil .up o) false
  exact ⟨whole, fraction, parts, parts.written⟩

/-- The plain text of a magnitude is read as it. -/
theorem magnitudeOfText?_magnitude (negative : Bool) (finite : o < ordinalBound) :
    magnitudeOfText? negative (Layout.plain.magnitude o) = some (.finite negative ⟨o, finite⟩) := by
  obtain ⟨whole, fraction, parts, text⟩ := plain_parts o
  have near := near_shortest .up o
  rw [← parts.value] at near
  rw [text]
  split
  · rename_i none
    rw [none, List.append_nil, List.length_nil, Nat.cast_zero, neg_zero] at near
    rw [magnitudeOfText?_whole parts.some_digit parts.allWhole,
      ofDecimal_of_near negative finite near]
  · rw [magnitudeOfText?_point parts.some_digit parts.allWhole parts.allFraction,
      ofDecimal_of_near negative finite near]

/-- The plain text of a magnitude begins with a digit. -/
theorem magnitude_eq_cons (o : Nat) : ∃ c rest, isDigit c = true ∧
    Layout.plain.magnitude o = c :: rest := by
  obtain ⟨whole, fraction, parts, text⟩ := plain_parts o
  obtain ⟨c, rest, rfl⟩ := List.exists_cons_of_ne_nil parts.some_digit
  have digit := parts.allWhole c (List.mem_cons_self ..)
  rw [text]
  split
  · exact ⟨c, rest, digit, rfl⟩
  · exact ⟨c, rest ++ '.' :: fraction, digit, rfl⟩

/-- A plain text without a point is that of the natural number that it writes. -/
theorem magnitude_of_whole (all : ∀ c ∈ Layout.plain.magnitude o, isDigit c = true) :
    Nat.toDigits 10 (digitsToNat (Layout.plain.magnitude o)) = Layout.plain.magnitude o := by
  rcases Nat.eq_zero_or_pos o with rfl | ho
  · rfl
  · obtain ⟨whole, fraction, parts, text⟩ := plain_parts o
    rw [text] at all ⊢
    split
    · rename_i none
      have first := parts.first none
      exact toDigits_digitsToNat parts.some_digit parts.allWhole
        (first.trans_ne (head?_shortest ho).2)
    · rename_i some
      rw [if_neg some] at all
      exact absurd (all '.' (by simp)) (by decide)

/-! ## The plain text of a double -/

theorem toLower_of_isDigit {c : Char} (digit : isDigit c = true) : c.toLower = c := by
  simp only [isDigit, Bool.and_eq_true, decide_eq_true_eq] at digit
  unfold Char.toLower
  rw [dif_neg]
  rintro ⟨low, -⟩
  have : 65 ≤ c.toNat := low
  omega

/-- What begins with a digit has no sign but the one in front. -/
theorem readSign_of_digit {c : Char} {rest : List Char} (digit : isDigit c = true)
    (negative : Bool) :
    readSign (if negative then '-' :: c :: rest else c :: rest) = (negative, c :: rest) := by
  cases negative with
  | true => rfl
  | false =>
    have other {d : Char} (none : isDigit d = false) : c ≠ d := by
      rintro rfl
      rw [none] at digit
      cases digit
    simp only [Bool.false_eq_true, ↓reduceIte]
    unfold readSign
    split
    · rename_i same
      exact absurd (List.cons.inj same).1 (other (by decide))
    · rename_i same
      exact absurd (List.cons.inj same).1 (other (by decide))
    · rfl

/-- What begins with a digit behind its sign is no word for what is not a finite number. -/
theorem ofText?_of_digit {text : String} {negative : Bool} {c : Char} {rest : List Char}
    (sign : readSign text.toList = (negative, c :: rest)) (digit : isDigit c = true) :
    ofText? text = magnitudeOfText? negative (c :: rest) := by
  have word {w : String} {d : Char} {more : List Char} (letters : w.toList = d :: more)
      (none : isDigit d = false) : String.ofList ((c :: rest).map Char.toLower) ≠ w := by
    rintro rfl
    rw [String.toList_ofList, List.map_cons, toLower_of_isDigit digit] at letters
    rw [(List.cons.inj letters).1, none] at digit
    cases digit
  unfold ofText?
  rw [sign]
  dsimp only
  rw [decide_eq_false (word (w := "inf") rfl (by decide)),
    decide_eq_false (word (w := "infinity") rfl (by decide)),
    if_neg (word (w := "nan") rfl (by decide))]
  rfl

/-- The sign and the rest of the plain text of a finite number. -/
theorem readSign_write (negative : Bool) (o : Fin ordinalBound) :
    readSign ((finite negative o).write .plain).toList =
      (negative, Layout.plain.magnitude o.val) := by
  obtain ⟨c, rest, digit, text⟩ := magnitude_eq_cons o
  rw [write, String.toList_ofList, text, readSign_of_digit digit]

/-- **Plain text.** The plain text of a double is read as the double. -/
theorem ofText?_write (x : Binary64) : ofText? (x.write .plain) = some x := by
  cases x with
  | nan => rfl
  | infinite negative => cases negative <;> rfl
  | finite negative o =>
    obtain ⟨c, rest, digit, text⟩ := magnitude_eq_cons o
    have sign := readSign_write negative o
    rw [text] at sign
    rw [ofText?_of_digit sign digit, ← text, magnitudeOfText?_magnitude negative o.isLt]

end JobQueue.Binary64
