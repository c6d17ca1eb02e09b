import JobQueue.Binary64.Layout
import JobQueue.Binary64.Text
import JobQueue.Proofs.Binary64.Decimal

/-!
# A double is known from its JSON text

Whatever way the digits of a magnitude are laid out, the text writes their value, so that doubles
with one text are one double.

* `Binary64.Digits.Parts`: what stands before the point and what behind it, where digits are written
  in full.
* `Binary64.decimalValue`: the value that a text of digits writes, perhaps with a point and an
  exponent.
* `Binary64.decimalValue_magnitude`: the text of a magnitude writes the value of its digits.
* `Binary64.write_json_injective`: finite doubles with the same text are the same, in sign too.
-/

namespace JobQueue.Binary64

open Text

/-! ## The value of a text -/

/-- The value that a text of digits writes, perhaps with a point and an exponent. -/
def decimalValue (s : List Char) : ℚ :=
  let (whole, s) := spanDigits s
  let (fraction, s) := match s with
    | '.' :: t => spanDigits t
    | t => ([], t)
  digitsToNat (whole ++ fraction) * 10 ^ ((exponentOf? s).getD 0 - fraction.length : Int)

variable {whole fraction : List Char}

/-- Digits, a point, more digits and what follows them. -/
theorem decimalValue_point (rest : List Char) (allWhole : ∀ c ∈ whole, isDigit c = true)
    (allFraction : ∀ c ∈ fraction, isDigit c = true) (stop : ∀ c ∈ rest.head?, isDigit c = false) :
    decimalValue (whole ++ '.' :: (fraction ++ rest)) =
      digitsToNat (whole ++ fraction) *
        10 ^ ((exponentOf? rest).getD 0 - fraction.length : Int) := by
  have first : spanDigits (whole ++ '.' :: (fraction ++ rest)) =
      (whole, '.' :: (fraction ++ rest)) :=
    spanDigits_append allWhole (by simp [isDigit])
  simp only [decimalValue, first, spanDigits_append allFraction stop]

/-- Digits and an exponent. -/
theorem decimalValue_exponent (rest : List Char) (all : ∀ c ∈ whole, isDigit c = true) :
    decimalValue (whole ++ 'e' :: rest) =
      digitsToNat whole * 10 ^ (exponentOf? ('e' :: rest)).getD 0 := by
  have first : spanDigits (whole ++ 'e' :: rest) = (whole, 'e' :: rest) :=
    spanDigits_append all (by simp [isDigit])
  simp [decimalValue, first]

/-- The exponent as it is written. -/
theorem exponentOf?_written (exponent : Int) :
    exponentOf? ('e' :: (if exponent < 0 then '-' :: Nat.toDigits 10 (-exponent).toNat
      else "+".toList ++ Nat.toDigits 10 exponent.toNat)) = some exponent := by
  have digits (n : Nat) :
      (!(Nat.toDigits 10 n).isEmpty && (Nat.toDigits 10 n).all isDigit) = true := by
    simp only [Bool.and_eq_true, Bool.not_eq_true', List.isEmpty_eq_false_iff, List.all_eq_true]
    exact ⟨Nat.toDigits_ne_nil, fun c h => isDigit_of_mem_toDigits h⟩
  split
  · simp only [exponentOf?, readSign, decide_true, Bool.true_or, Bool.true_and, digits,
      digitsToNat_toDigits, if_true, Option.some.injEq]
    omega
  · have plus : "+".toList = ['+'] := rfl
    simp only [plus, List.cons_append, List.nil_append, exponentOf?, readSign, decide_true,
      Bool.true_or, Bool.true_and, digits, digitsToNat_toDigits, if_true, Option.some.injEq]
    simp only [Bool.false_eq_true, if_false]
    omega

/-! ## The value of a layout -/

variable {d : Digits}

theorem isDigit_of_mem_zeros {n : Nat} {c : Char} (h : c ∈ List.replicate n '0') :
    isDigit c = true := by
  rw [List.eq_of_mem_replicate h]
  rfl

/-- What stands before the point and what behind it, where digits are written in full. If nothing is
behind it, there is no point. -/
structure Digits.Parts (d : Digits) (keepsPoint : Bool) (whole fraction : List Char) : Prop where
  some_digit : whole ≠ []
  allWhole : ∀ c ∈ whole, isDigit c = true
  allFraction : ∀ c ∈ fraction, isDigit c = true
  written : d.positional keepsPoint = if fraction = [] then whole else whole ++ '.' :: fraction
  kept : keepsPoint = true → fraction ≠ []
  first : fraction = [] → whole.head? = d.digits.head?
  value : digitsToNat (whole ++ fraction) * (10 : ℚ) ^ (-fraction.length : Int) = d.value

namespace Digits

variable {keepsPoint : Bool} {places : Nat}

/-- The point stands before all digits, with zeros between. -/
theorem parts_of_neg (all : ∀ c ∈ d.digits, isDigit c = true) (some_digit : d.digits ≠ [])
    (negative : d.exponent < 0) :
    d.Parts keepsPoint ['0'] (List.replicate (-d.exponent - 1).toNat '0' ++ d.digits) where
  some_digit := List.cons_ne_nil _ _
  allWhole := List.forall_mem_singleton.mpr rfl
  allFraction c h := (List.mem_append.mp h).elim isDigit_of_mem_zeros (all c)
  written := by
    rw [positional, if_pos negative, if_neg (List.append_ne_nil_of_right_ne_nil _ some_digit)]
    rfl
  kept _ := List.append_ne_nil_of_right_ne_nil _ some_digit
  first none := absurd none (List.append_ne_nil_of_right_ne_nil _ some_digit)
  value := by
    have zero : ['0'] = List.replicate 1 '0' := rfl
    rw [zero, digitsToNat_zeros_append, digitsToNat_zeros_append, Digits.value, List.length_append,
      List.length_replicate]
    congr 2
    omega

/-- The point stands behind all digits, with zeros between, or there is none. -/
theorem parts_of_le (all : ∀ c ∈ d.digits, isDigit c = true) (some_digit : d.digits ≠ [])
    (place : d.exponent = places) (short : d.digits.length ≤ places + 1) :
    d.Parts keepsPoint (d.digits ++ List.replicate (places + 1 - d.digits.length) '0')
      (if keepsPoint then ['0'] else []) where
  some_digit := List.append_ne_nil_of_left_ne_nil some_digit _
  allWhole c h := (List.mem_append.mp h).elim (all c) isDigit_of_mem_zeros
  allFraction := by
    cases keepsPoint
    · exact List.forall_mem_nil _
    · exact List.forall_mem_singleton.mpr rfl
  written := by
    have none : d.digits.drop (places + 1) = [] := List.drop_eq_nil_iff.mpr short
    rw [positional, if_neg (by omega), place, Int.toNat_natCast]
    dsimp only
    rw [List.take_of_length_le short, none]
    cases keepsPoint <;> simp
  kept := by
    rintro rfl
    exact List.cons_ne_nil _ _
  first _ := List.head?_append_of_ne_nil _ some_digit
  value := by
    have shift : (10 : ℚ) ^ (places + 1 - d.digits.length : Int) =
        10 ^ (places + 1 - d.digits.length) := by
      rw [← Nat.cast_succ, ← Nat.cast_sub short, zpow_natCast]
    rw [Digits.value, place, shift]
    cases keepsPoint with
    | false => simp [digitsToNat_append_zeros]
    | true =>
      have zero : ['0'] = List.replicate 1 '0' := rfl
      rw [if_pos rfl, zero, digitsToNat_append_zeros, digitsToNat_append_zeros]
      simp

/-- The point stands between two digits. -/
theorem parts_of_lt (all : ∀ c ∈ d.digits, isDigit c = true) (place : d.exponent = places)
    (long : places + 1 < d.digits.length) :
    d.Parts keepsPoint (d.digits.take (places + 1)) (d.digits.drop (places + 1)) where
  some_digit := List.ne_nil_of_length_pos (by rw [List.length_take]; omega)
  allWhole c h := all c (List.mem_of_mem_take h)
  allFraction c h := all c (List.mem_of_mem_drop h)
  written := by
    rw [positional, if_neg (by omega), place, Int.toNat_natCast]
    simp [long.le, long.not_ge]
  kept _ := mt List.drop_eq_nil_iff.mp long.not_ge
  first none := absurd (List.drop_eq_nil_iff.mp none) long.not_ge
  value := by
    rw [List.take_append_drop, List.length_drop, Digits.value]
    congr 2
    omega

/-- Digits written in full are digits, or digits, a point and more digits, and write their value. -/
theorem exists_parts (all : ∀ c ∈ d.digits, isDigit c = true) (some_digit : d.digits ≠ [])
    (keepsPoint : Bool) : ∃ whole fraction, d.Parts keepsPoint whole fraction := by
  rcases place : d.exponent with places | before
  · by_cases short : d.digits.length ≤ places + 1
    · exact ⟨_, _, parts_of_le all some_digit place short⟩
    · exact ⟨_, _, parts_of_lt all place (Nat.not_le.mp short)⟩
  · exact ⟨_, _, parts_of_neg all some_digit (place ▸ Int.negSucc_lt_zero before)⟩

end Digits

theorem decimalValue_positional (all : ∀ c ∈ d.digits, isDigit c = true)
    (some_digit : d.digits ≠ []) : decimalValue (d.positional true) = d.value := by
  obtain ⟨whole, fraction, parts⟩ := d.exists_parts all some_digit true
  have value := decimalValue_point [] parts.allWhole parts.allFraction (by simp)
  rw [List.append_nil] at value
  rw [parts.written, if_neg (parts.kept rfl), value, ← parts.value]
  simp [exponentOf?]

theorem decimalValue_scientific (all : ∀ c ∈ d.digits, isDigit c = true) :
    decimalValue (d.scientific "+") = d.value := by
  unfold Digits.scientific
  dsimp only
  have exponent := exponentOf?_written d.exponent
  generalize (if d.exponent < 0 then '-' :: Nat.toDigits 10 (-d.exponent).toNat
    else "+".toList ++ Nat.toDigits 10 d.exponent.toNat) = written at exponent ⊢
  match h : d.digits with
  | [] =>
    have value := decimalValue_exponent written (List.forall_mem_nil _)
    refine value.trans ?_
    simp [Digits.value, h, digitsToNat]
  | [c] =>
    have value := decimalValue_exponent written (h ▸ all)
    refine value.trans ?_
    rw [exponent, Digits.value, h]
    simp
  | c :: c' :: rest =>
    rw [h] at all
    have whole : ∀ x ∈ [c], isDigit x = true := fun x hx => all x (by simp_all)
    have value := decimalValue_point ('e' :: written) whole
      (fun x hx => all x (List.mem_cons_of_mem c hx)) (by simp [isDigit])
    refine value.trans ?_
    rw [exponent, Digits.value, h]
    congr 2
    simp

/-! ## The characters of a layout -/

variable {c : Char}

theorem mem_positional (all : ∀ c ∈ d.digits, isDigit c = true) (some_digit : d.digits ≠ [])
    (h : c ∈ d.positional true) : isDigit c = true ∨ c = '.' := by
  obtain ⟨whole, fraction, parts⟩ := d.exists_parts all some_digit true
  rw [parts.written, if_neg (parts.kept rfl), List.mem_append, List.mem_cons] at h
  rcases h with before | point | behind
  · exact .inl (parts.allWhole c before)
  · exact .inr point
  · exact .inl (parts.allFraction c behind)

/-- A magnitude written in full has a point. -/
theorem point_mem_positional (all : ∀ c ∈ d.digits, isDigit c = true) (some_digit : d.digits ≠ []) :
    '.' ∈ d.positional true := by
  obtain ⟨whole, fraction, parts⟩ := d.exists_parts all some_digit true
  rw [parts.written, if_neg (parts.kept rfl)]
  simp

/-- A magnitude written with an exponent has an `e`, behind digits and a point only. -/
theorem scientific_eq (all : ∀ c ∈ d.digits, isDigit c = true) : ∃ mantissa exponent,
    d.scientific "+" = mantissa ++ 'e' :: exponent ∧
      (∀ c ∈ mantissa, isDigit c = true ∨ c = '.') ∧
      ∀ c ∈ exponent, isDigit c = true ∨ c = '-' ∨ c = '+' := by
  refine ⟨_, _, rfl, fun c h => ?_, fun c h => ?_⟩
  · match digits : d.digits with
    | [] => simp [digits] at h
    | [x] =>
      rw [digits] at h
      exact .inl (all c (digits ▸ h))
    | x :: y :: rest =>
      rw [digits] at h all
      rcases List.mem_cons.mp h with rfl | h
      · exact .inl (all c (List.mem_cons_self ..))
      · rcases List.mem_cons.mp h with rfl | h
        · exact .inr rfl
        · exact .inl (all c (List.mem_cons_of_mem x h))
  · split at h
    · rcases List.mem_cons.mp h with minus | h
      · exact .inr (.inl minus)
      · exact .inl (isDigit_of_mem_toDigits h)
    · rcases List.mem_append.mp h with plus | h
      · exact .inr (.inr (List.mem_singleton.mp plus))
      · exact .inl (isDigit_of_mem_toDigits h)

/-! ## The text of a double -/

/-- A magnitude is written in full or with an exponent. -/
theorem magnitude_eq (o : Nat) :
    Layout.json.magnitude o = (shortest .even o).positional true ∨
      Layout.json.magnitude o = (shortest .even o).scientific "+" := by
  unfold Layout.magnitude
  dsimp only [Layout.json]
  exact ite_eq_or_eq _ _ _

/-- The text of a magnitude writes the value of its digits. -/
theorem decimalValue_magnitude (o : Nat) :
    decimalValue (Layout.json.magnitude o) = (shortest .even o).value := by
  rcases magnitude_eq o with h | h <;> rw [h]
  · exact decimalValue_positional (fun c => isDigit_of_mem_shortest) (shortest_digits_ne_nil _ _)
  · exact decimalValue_scientific fun c => isDigit_of_mem_shortest

theorem magnitude_injective : Function.Injective Layout.json.magnitude := by
  intro o p same
  apply shortest_value_injective .even
  dsimp only
  rw [← decimalValue_magnitude, same, decimalValue_magnitude]

/-- The text of a magnitude is digits and points, and then nothing or an exponent. -/
theorem magnitude_shape (o : Nat) : ∃ mantissa exponent,
    Layout.json.magnitude o = mantissa ++ exponent ∧
      (∀ c ∈ mantissa, isDigit c = true ∨ c = '.') ∧
      (exponent = [] ∧ '.' ∈ mantissa ∨
        ∃ rest, exponent = 'e' :: rest ∧ ∀ c ∈ rest, isDigit c = true ∨ c = '-' ∨ c = '+') := by
  have all : ∀ c ∈ (shortest .even o).digits, isDigit c = true := fun c => isDigit_of_mem_shortest
  rcases magnitude_eq o with h | h
  · have some_digit := shortest_digits_ne_nil .even o
    exact ⟨_, [], by rw [h, List.append_nil], fun c => mem_positional all some_digit,
      .inl ⟨rfl, point_mem_positional all some_digit⟩⟩
  · obtain ⟨mantissa, exponent, written, first, last⟩ := scientific_eq all
    exact ⟨mantissa, _, by rw [h, written], first, .inr ⟨exponent, rfl, last⟩⟩

end JobQueue.Binary64
