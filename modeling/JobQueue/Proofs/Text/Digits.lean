import JobQueue.Text.Digits
import Mathlib.Algebra.Group.Nat.Defs
import Mathlib.Data.List.Basic
import Mathlib.Data.List.Induction
import Mathlib.Data.List.TakeWhile

/-!
# Runs of decimal digits, written and read

What a run of digits writes is read back, put together and taken off the front of a text.

* `Text.digitsToNat_toDigits`: the digits of a number write it.
* `Text.digitsToNat_append`: digits put behind others.
* `Text.toDigits_digitsToNat`: digits with no zero in front are those of the number they write.
* `Text.digitsToNat_padded` and `Text.length_padded`: numbers with zeros in front.
* `Text.spanDigits_append`: the digits in front of something else are taken off whole.
* `Text.eq_of_last`: what stands behind the last of some mark is known, digits for one.
-/

namespace JobQueue.Text

theorem isDigit_eq (c : Char) : isDigit c = c.isDigit := by
  simp only [isDigit, Char.isDigit, Char.toNat, UInt32.le_iff_toNat_le, ge_iff_le]
  rfl

theorem isDigit_of_mem_toDigits {n : Nat} {c : Char} (h : c ∈ Nat.toDigits 10 n) :
    isDigit c = true := by
  rw [isDigit_eq]
  exact Nat.isDigit_of_mem_toDigits (by decide) (by decide) h

/-! ## The number a run of digits writes -/

/-- Reading digits is the library's own reading of them. -/
theorem digitsToNat_eq (s : List Char) : digitsToNat s = Nat.ofDigitChars 10 s 0 := by
  simp only [digitsToNat, Nat.ofDigitChars_eq_foldl, Nat.mul_comm]
  rfl

@[simp] theorem digitsToNat_toDigits (n : Nat) : digitsToNat (Nat.toDigits 10 n) = n := by
  rw [digitsToNat_eq, Nat.ofDigitChars_ten_toDigits]

theorem toDigits_injective {m n : Nat} (h : Nat.toDigits 10 m = Nat.toDigits 10 n) : m = n := by
  rw [← digitsToNat_toDigits m, h, digitsToNat_toDigits]

theorem digitsToNat_append (s t : List Char) :
    digitsToNat (s ++ t) = digitsToNat s * 10 ^ t.length + digitsToNat t := by
  simp only [digitsToNat_eq]
  rw [Nat.ofDigitChars_append, Nat.ofDigitChars_eq_ofDigitChars_zero, Nat.mul_comm]

@[simp] theorem digitsToNat_replicate_zero (n : Nat) :
    digitsToNat (List.replicate n '0') = 0 := by
  rw [digitsToNat_eq, Nat.ofDigitChars_replicate_zero, Nat.mul_zero]

/-- Zeros in front of digits change nothing. -/
theorem digitsToNat_zeros_append (n : Nat) (s : List Char) :
    digitsToNat (List.replicate n '0' ++ s) = digitsToNat s := by
  rw [digitsToNat_append, digitsToNat_replicate_zero, Nat.zero_mul, Nat.zero_add]

/-- Zeros behind digits multiply by a power of ten. -/
theorem digitsToNat_append_zeros (s : List Char) (n : Nat) :
    digitsToNat (s ++ List.replicate n '0') = digitsToNat s * 10 ^ n := by
  rw [digitsToNat_append, digitsToNat_replicate_zero, List.length_replicate, Nat.add_zero]

/-- A number is below the power of ten that its length tells. -/
theorem lt_ten_pow (n : Nat) : n < 10 ^ (Nat.toDigits 10 n).length :=
  (Nat.length_toDigits_le_iff (by decide) Nat.length_toDigits_pos).mp (Nat.le_refl _)

/-- A positive number is not below the power of ten before that. -/
theorem ten_pow_le {n : Nat} (h : 0 < n) : 10 ^ ((Nat.toDigits 10 n).length - 1) ≤ n := by
  have some : 0 < (Nat.toDigits 10 n).length := Nat.length_toDigits_pos
  by_contra less
  rcases Nat.eq_zero_or_pos ((Nat.toDigits 10 n).length - 1) with zero | pos
  · rw [zero] at less
    omega
  · have := (Nat.length_toDigits_le_iff (by decide) pos).mpr (Nat.lt_of_not_le less)
    omega

/-! ## Digits with no zero in front -/

/-- A positive number does not begin with a zero. -/
theorem head?_toDigits {n : Nat} (h : 0 < n) : (Nat.toDigits 10 n).head? ≠ some '0' := by
  induction n using Nat.strong_induction_on with
  | _ n ih =>
    rcases Nat.lt_or_ge n 10 with small | large
    · rw [Nat.toDigits_of_lt_base small]
      have digits : ∀ n < 10, 0 < n → [n.digitChar].head? ≠ some '0' := by decide
      exact digits n small h
    · rw [Nat.toDigits_of_base_le (by decide) large,
        List.head?_append_of_ne_nil _ Nat.toDigits_ne_nil]
      exact ih (n / 10) (by omega) (by omega)

/-- The digit with a value. -/
theorem digitChar_of_isDigit {c : Char} (h : isDigit c = true) :
    c.toNat - 48 < 10 ∧ (c.toNat - 48).digitChar = c := by
  simp only [isDigit, Bool.and_eq_true, decide_eq_true_eq] at h
  have digits : ∀ n < 10, (n.digitChar).toNat = 48 + n := by decide
  refine ⟨by omega, Char.ext (UInt32.toNat_inj.mp ?_)⟩
  exact (digits (c.toNat - 48) (by omega)).trans (by show _ = c.toNat; omega)

/-- Digits that do not begin with a zero are those of the number that they write. -/
theorem toDigits_digitsToNat {s : List Char} (some_digit : s ≠ [])
    (all : ∀ c ∈ s, isDigit c = true) (first : s.head? ≠ some '0') :
    Nat.toDigits 10 (digitsToNat s) = s := by
  induction s using List.reverseRecOn with
  | nil => exact absurd rfl some_digit
  | append_singleton s c ih =>
    obtain ⟨small, digit⟩ := digitChar_of_isDigit (all c (by simp))
    have last : digitsToNat [c] = c.toNat - 48 := Nat.zero_add _
    rw [digitsToNat_append, last, List.length_singleton, Nat.pow_one]
    by_cases one : s = []
    · have none : digitsToNat [] = 0 := rfl
      rw [one, none, Nat.zero_mul, Nat.zero_add, Nat.toDigits_of_lt_base small, digit]
      rfl
    · rw [List.head?_append_of_ne_nil _ one] at first
      have before := ih one (fun c hc => all c (List.mem_append_left _ hc)) first
      have positive : 0 < digitsToNat s := by
        refine Nat.pos_of_ne_zero fun zero => first ?_
        rw [← before, zero]
        rfl
      rw [Nat.mul_comm, ← Nat.toDigits_append_toDigits (by decide) positive small, before,
        Nat.toDigits_of_lt_base small, digit]

/-! ## Numbers with zeros in front -/

theorem isDigit_of_mem_padded {places n : Nat} {c : Char} (h : c ∈ padded places n) :
    isDigit c = true := by
  rcases List.mem_append.mp h with h | h
  · rw [List.eq_of_mem_replicate h]
    rfl
  · exact isDigit_of_mem_toDigits h

@[simp] theorem digitsToNat_padded (places n : Nat) : digitsToNat (padded places n) = n := by
  rw [padded, digitsToNat_zeros_append, digitsToNat_toDigits]

/-- A number that is not too large takes the places that it is given. -/
theorem length_padded {places n : Nat} (some : 0 < places) (small : n < 10 ^ places) :
    (padded places n).length = places := by
  have digits : (Nat.toDigits 10 n).length ≤ places :=
    (Nat.length_toDigits_le_iff (by decide) some).mpr small
  rw [padded, List.length_append, List.length_replicate]
  omega

theorem padded_ne_nil (places n : Nat) : padded places n ≠ [] := by
  have digits : 0 < (Nat.toDigits 10 n).length := Nat.length_toDigits_pos
  intro h
  have none := congrArg List.length h
  rw [padded, List.length_append, List.length_nil] at none
  omega

/-! ## Digits at the front of a text -/

variable {digits rest : List Char}

/-- Digits in front of something that begins with none are taken off whole. -/
theorem spanDigits_append (all : ∀ c ∈ digits, isDigit c = true)
    (stop : ∀ c ∈ rest.head?, isDigit c = false) :
    spanDigits (digits ++ rest) = (digits, rest) := by
  have empty : rest.takeWhile isDigit = [] ∧ rest.dropWhile isDigit = rest := by
    cases rest with
    | nil => exact ⟨rfl, rfl⟩
    | cons c rest => simp [stop c rfl]
  rw [spanDigits, List.takeWhile_append_of_pos all, List.dropWhile_append_of_pos all, empty.1,
    empty.2, List.append_nil]

theorem spanDigits_of_all (all : ∀ c ∈ digits, isDigit c = true) :
    spanDigits digits = (digits, []) := by
  simpa using @spanDigits_append digits [] all (by simp)

/-! ## Behind the last mark -/

/-- The part behind the last of some mark is known, and so is what stands before it. -/
theorem eq_of_last {mark : Char} {a b c d : List Char} (hb : mark ∉ b) (hd : mark ∉ d)
    (h : a ++ mark :: b = c ++ mark :: d) : a = c ∧ b = d := by
  rcases List.append_eq_append_iff.mp h with ⟨m, rfl, tail⟩ | ⟨m, rfl, tail⟩
  · cases m with
    | nil => exact ⟨(List.append_nil a).symm, (List.cons.inj tail).2⟩
    | cons x m => exact absurd (by rw [(List.cons.inj tail).2]; simp) hb
  · cases m with
    | nil => exact ⟨List.append_nil c, (List.cons.inj tail).2.symm⟩
    | cons x m => exact absurd (by rw [(List.cons.inj tail).2]; simp) hd

/-- What is no digit is in no number. -/
theorem notMem_toDigits {mark : Char} {n : Nat} (h : isDigit mark = false) :
    mark ∉ Nat.toDigits 10 n := by
  intro mem
  rw [isDigit_of_mem_toDigits mem] at h
  cases h

end JobQueue.Text
