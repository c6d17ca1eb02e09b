import JobQueue.Uuid
import JobQueue.Proofs.Text.Hex

/-!
# Identifiers, written and read

* `filter_group` and `length_group`: digits in groups.
* `parse?_text`: every identifier is read back from its text.
-/

namespace JobQueue.Uuid

variable {s : List Char}

/-! ## Groups -/

/-- Without the dashes, the groups are the digits again. -/
theorem filter_group (bare : ∀ c ∈ s, c ≠ '-') : (group s).filter (· ≠ '-') = s := by
  have kept {t : List Char} (h : t ⊆ s) : t.filter (· ≠ '-') = t :=
    List.filter_eq_self.mpr fun c hc => decide_eq_true (bare c (h hc))
  have dropped (k : Nat) : (s.drop k).filter (· ≠ '-') = s.drop k := kept (List.drop_subset k s)
  have middle (k : Nat) : ((s.drop k).take 4).filter (· ≠ '-') = (s.drop k).take 4 :=
    kept (List.Subset.trans (List.take_subset 4 _) (List.drop_subset k s))
  have joined (k : Nat) : (s.drop k).take 4 ++ s.drop (k + 4) = s.drop k := by
    rw [← List.drop_drop, List.take_append_drop]
  have dash (t : List Char) : ('-' :: t).filter (· ≠ '-') = t.filter (· ≠ '-') :=
    List.filter_cons_of_neg (by decide)
  rw [group, List.filter_append, dash, List.filter_append, dash, List.filter_append, dash,
    List.filter_append, dash, kept (List.take_subset 8 s), middle, middle, middle, dropped,
    joined 16, joined 12, joined 8, List.take_append_drop]

theorem length_group (length : s.length = 32) : (group s).length = 36 := by
  simp [group, length]

/-! ## Texts -/

/-- The digits of an identifier are no characters that have a meaning of their own in its text. -/
theorem plain_of_mem_digits {u : Uuid} {c : Char} (h : c ∈ u.digits) :
    c ≠ '-' ∧ c ≠ '\x7b' ∧ c ≠ 'u' := by
  have plain : ∀ d < 16, Text.hexDigit d ≠ '-' ∧ Text.hexDigit d ≠ '\x7b' ∧ Text.hexDigit d ≠ 'u' :=
    by decide
  obtain ⟨d, small, rfl⟩ := Text.exists_of_mem_hexDigits h
  exact plain d small

/-- Every identifier is read back from its text. -/
theorem parse?_text (u : Uuid) : parse? u.text = some u := by
  have length : u.digits.length = 32 := Text.length_hexDigits 32 u.toNat
  have digits : ofDigits? u.digits = some u := by
    have small : u.toNat < 16 ^ 32 := u.bits.isLt
    have same : ofNat u.toNat = u := by
      rw [ofNat, toNat, BitVec.ofNat_toNat, BitVec.setWidth_eq]
    rw [ofDigits?, if_pos length, Uuid.digits, Text.hexNumber?_hexDigits, Nat.mod_eq_of_lt small,
      Option.map_some, same]
  have groups : ofGroups? (group u.digits) = some u := by
    rw [ofGroups?, filter_group fun c hc => (plain_of_mem_digits hc).1,
      if_pos ⟨length_group length, rfl⟩, digits]
  -- the first character is a digit, and so it opens none of the other forms
  obtain ⟨d, rest, hd⟩ : ∃ d rest, u.digits = d :: rest := by
    refine List.exists_cons_of_ne_nil fun none => ?_
    rw [none] at length
    cases length
  obtain ⟨-, noBrace, noUrn⟩ := plain_of_mem_digits (hd ▸ List.mem_cons_self : d ∈ u.digits)
  have opening : group u.digits = d :: (group u.digits).tail := by
    rw [hd]
    rfl
  rw [parse?, text, String.toList_ofList]
  split
  · rename_i same
    rw [opening, List.cons.injEq] at same
    exact absurd same.1 noBrace
  · rename_i same
    rw [opening, List.cons.injEq] at same
    exact absurd same.1 noUrn
  · rw [length_group length, if_neg (by decide), groups]

end JobQueue.Uuid
