import Mathlib.Data.List.Sort

/-!
# Sorting by a key

Things with different keys have one order in which the keys increase, whatever the order in which
the things are given.

* `sortedBy` is this order: `sortedBy_perm`, `sortedBy_pairwise` and, for that there is no other one,
  `eq_sortedBy`.
* `sortedBy_eq_of_perm`: it does not depend on the order before.
* `pageOf` cuts a list into pages, and `flatten_all_pages` puts them together again.
-/

namespace JobQueue

universe u v

variable {α : Type u} {κ : Type v}

/-! ## One order -/

section

variable [LinearOrder κ] {key : α → κ} {xs ys : List α}

/-- Things in the order of their keys. -/
def sortedBy (key : α → κ) (xs : List α) : List α := xs.mergeSort fun a b => decide (key a ≤ key b)

theorem sortedBy_perm (key : α → κ) (xs : List α) : (sortedBy key xs).Perm xs :=
  List.mergeSort_perm ..

/-- Sorting by what compares keys is sorting by keys. -/
theorem mergeSort_eq_sortedBy (key : α → κ) {before : α → α → Bool}
    (compares : ∀ a b, before a b = true ↔ key a ≤ key b) (xs : List α) :
    xs.mergeSort before = sortedBy key xs := by
  have same : before = fun a b => decide (key a ≤ key b) := by
    funext a b
    rw [Bool.eq_iff_iff, compares, decide_eq_true_eq]
  rw [same, sortedBy]

/-- Different keys increase. -/
theorem sortedBy_pairwise (distinct : (xs.map key).Nodup) :
    (sortedBy key xs).Pairwise fun a b => key a < key b := by
  have sorted : (sortedBy key xs).Pairwise fun a b => decide (key a ≤ key b) = true :=
    List.pairwise_mergeSort (by simpa using fun _ _ _ => le_trans) (by simp [le_total]) _
  have apart : (sortedBy key xs).Pairwise fun a b => key a ≠ key b :=
    List.pairwise_map.mp (((sortedBy_perm key xs).map key).nodup_iff.mpr distinct)
  exact (sorted.and apart).imp fun ⟨le, ne⟩ => lt_of_le_of_ne (of_decide_eq_true le) ne

/-- There is only one order in which keys increase. -/
theorem eq_sortedBy (perm : ys.Perm xs) (sorted : ys.Pairwise fun a b => key a < key b) :
    ys = sortedBy key xs := by
  have distinct : (xs.map key).Nodup :=
    (perm.map key).nodup_iff.mp (List.pairwise_map.mpr (sorted.imp ne_of_lt))
  exact (perm.trans (sortedBy_perm key xs).symm).eq_of_pairwise
    (fun _ _ _ _ before behind => absurd behind before.asymm) sorted (sortedBy_pairwise distinct)

/-- The order before makes no difference. -/
theorem sortedBy_eq_of_perm (distinct : (xs.map key).Nodup) (perm : ys.Perm xs) :
    sortedBy key ys = sortedBy key xs :=
  eq_sortedBy ((sortedBy_perm key ys).trans perm)
    (sortedBy_pairwise ((perm.map key).nodup_iff.mpr distinct))

end

/-! ## Pages -/

section

variable {size : Nat} {xs : List α}

/-- One of the pages of a list, counted from zero. -/
def pageOf (size : Nat) (xs : List α) (number : Nat) : List α := (xs.drop (number * size)).take size

/-- The first pages, one after the other, are the beginning of the list. -/
theorem flatten_pages (size : Nat) (xs : List α) (count : Nat) :
    ((List.range count).map (pageOf size xs)).flatten = xs.take (count * size) := by
  induction count with
  | zero => simp
  | succ count ih =>
    rw [List.range_succ, List.map_append, List.flatten_append, ih, Nat.succ_mul, List.take_add]
    simp [pageOf]

theorem length_pageOf (size : Nat) (xs : List α) (number : Nat) :
    (pageOf size xs number).length = Nat.min size (xs.length - number * size) := by
  rw [pageOf, List.length_take, List.length_drop]

/-- A page behind the end is empty, and no other one is. -/
theorem pageOf_eq_nil_iff (some : 1 ≤ size) {number : Nat} :
    pageOf size xs number = [] ↔ xs.length ≤ number * size := by
  rw [pageOf, List.take_eq_nil_iff, List.drop_eq_nil_iff]
  exact or_iff_right (by omega)

/-- The number of pages with something in them. -/
def pageCount (size : Nat) (xs : List α) : Nat := (xs.length + size - 1) / size

theorem lt_pageCount_iff (some : 1 ≤ size) {number : Nat} :
    number < pageCount size xs ↔ number * size < xs.length := by
  rw [pageCount, ← Nat.succ_le_iff, Nat.le_div_iff_mul_le some, Nat.succ_mul]
  omega

/-- All pages, one after the other, are the list. -/
theorem flatten_all_pages (some : 1 ≤ size) (xs : List α) :
    ((List.range (pageCount size xs)).map (pageOf size xs)).flatten = xs := by
  have enough : xs.length ≤ pageCount size xs * size :=
    Nat.not_lt.mp ((lt_pageCount_iff some).not.mp (Nat.lt_irrefl _))
  rw [flatten_pages, List.take_of_length_le enough]

/-- A page before one that is not empty is full. -/
theorem length_pageOf_of_lt (some : 1 ≤ size) {i j : Nat} (before : i < j)
    (later : pageOf size xs j ≠ []) : (pageOf size xs i).length = size := by
  rw [Ne, pageOf_eq_nil_iff some] at later
  have next : (i + 1) * size ≤ j * size := Nat.mul_le_mul_right size before
  rw [Nat.succ_mul] at next
  rw [length_pageOf]
  exact Nat.min_eq_left (by omega)

end

end JobQueue
