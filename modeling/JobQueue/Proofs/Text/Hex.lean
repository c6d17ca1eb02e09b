import JobQueue.Text.Hex
import Mathlib.Tactic.Ring

/-!
# Hexadecimal digits, written and read

* `Text.hexNumber?_hexDigits`: the lowest digits of a number write the rest of the number by a power
  of sixteen.
* `Text.length_hexDigits` and `Text.exists_of_mem_hexDigits`: how many there are, and what they are.
-/

namespace JobQueue.Text

theorem hexValue?_hexDigit : ∀ d < 16, hexValue? (hexDigit d) = some d := by decide

/-- The highest digit stands in front. -/
theorem hexDigits_succ (places n : Nat) :
    hexDigits (places + 1) n = hexDigit (n / 16 ^ places % 16) :: hexDigits places n := by
  rw [hexDigits, List.range_succ, List.reverse_append, hexDigits]
  rfl

@[simp] theorem length_hexDigits (places n : Nat) : (hexDigits places n).length = places := by
  rw [hexDigits, List.length_map, List.length_reverse, List.length_range]

theorem exists_of_mem_hexDigits {places n : Nat} {c : Char} (h : c ∈ hexDigits places n) :
    ∃ d < 16, c = hexDigit d := by
  obtain ⟨i, -, rfl⟩ := List.mem_map.mp h
  exact ⟨_, Nat.mod_lt _ (by decide), rfl⟩

/-- Digits that are read add to what was read before them. -/
theorem foldl_hexDigits (places n before : Nat) :
    (hexDigits places n).foldl
      (fun acc c => do pure ((← acc) * 16 + (← hexValue? c))) (some before) =
        some (before * 16 ^ places + n % 16 ^ places) := by
  induction places generalizing before with
  | zero => simp [hexDigits, Nat.mod_one]
  | succ places ih =>
    have digit : n / 16 ^ places % 16 < 16 := Nat.mod_lt _ (by decide)
    have step : (do pure ((← some before) * 16 + (← hexValue? (hexDigit (n / 16 ^ places % 16)))) :
        Option Nat) = some (before * 16 + n / 16 ^ places % 16) := by
      rw [hexValue?_hexDigit _ digit]
      rfl
    rw [hexDigits_succ, List.foldl_cons, step, ih, Nat.mod_pow_succ, Nat.pow_succ]
    congr 1
    ring

/-- Digits write what they are digits of, as far as they go. -/
theorem hexNumber?_hexDigits (places n : Nat) :
    hexNumber? (hexDigits places n) = some (n % 16 ^ places) := by
  rw [hexNumber?, foldl_hexDigits, Nat.zero_mul, Nat.zero_add]

end JobQueue.Text
