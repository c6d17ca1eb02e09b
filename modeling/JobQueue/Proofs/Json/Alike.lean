import JobQueue.Json.Basic
import Mathlib.Data.List.Sort

/-!
# The same up to the order of members

Two values are alike when they differ only in the order in which members stand in objects, at
whatever depth. An object then is a finite map from names to values: two are alike when they have
as many members and each member of one has its counterpart under the same name in the other.

* `Json.isProper`: the values a program can hold. No object has two members of one name, and no
  number is infinite or none.
* `Json.alike`: the same up to the order of members.
* `Json.alike_iff_sorted`: proper values are alike exactly when they agree once sorted.
-/

namespace JobQueue.Json

/-- To show something of every value, show it of an array and of an object from what is within. -/
@[elab_as_elim]
theorem within {motive : Json → Prop} (null : motive .null) (bool : ∀ b, motive (.bool b))
    (number : ∀ n, motive (.number n)) (string : ∀ s, motive (.string s))
    (array : ∀ items, (∀ x ∈ items, motive x) → motive (.array items))
    (object : ∀ members, (∀ m ∈ members, motive m.2) → motive (.object members)) (j : Json) :
    motive j :=
  @Json.rec motive (fun items => ∀ x ∈ items, motive x)
    (fun members => ∀ m ∈ members, motive m.2) (fun m => motive m.2) null bool number string array
    object (by simp)
    (fun _ _ head tail => List.forall_mem_cons.mpr ⟨head, tail⟩) (by simp)
    (fun _ _ head tail => List.forall_mem_cons.mpr ⟨head, tail⟩) (fun _ _ value => value) j

/-! ## Proper values -/

mutual

/-- Whether a value is one that a program can hold: the names in an object are different, and a
number is one. -/
def isProper : Json → Bool
  | .null | .bool _ | .string _ | .number (.int _) => true
  | .number (.float x) => x.isFinite
  | .array items => isProperItems items
  | .object members => decide (members.map Prod.fst).Nodup && isProperMembers members

/-- Whether all items are proper. -/
def isProperItems : List Json → Bool
  | [] => true
  | x :: xs => x.isProper && isProperItems xs

/-- Whether the values of all members are proper. -/
def isProperMembers : List (String × Json) → Bool
  | [] => true
  | (_, x) :: xs => x.isProper && isProperMembers xs

end

theorem isProperItems_iff {items : List Json} :
    isProperItems items = true ↔ ∀ x ∈ items, x.isProper = true := by
  induction items with
  | nil => simp [isProperItems]
  | cons x xs ih => rw [isProperItems, Bool.and_eq_true, ih, List.forall_mem_cons]

theorem isProperMembers_iff {members : List (String × Json)} :
    isProperMembers members = true ↔ ∀ m ∈ members, m.2.isProper = true := by
  induction members with
  | nil => simp [isProperMembers]
  | cons m members ih => rw [isProperMembers, Bool.and_eq_true, ih, List.forall_mem_cons]

theorem isProper_array {items : List Json} :
    (Json.array items).isProper = true ↔ ∀ x ∈ items, x.isProper = true := by
  rw [isProper, isProperItems_iff]

theorem isProper_object {members : List (String × Json)} :
    (Json.object members).isProper = true ↔
      (members.map Prod.fst).Nodup ∧ ∀ m ∈ members, m.2.isProper = true := by
  rw [isProper, Bool.and_eq_true, decide_eq_true_eq, isProperMembers_iff]

/-! ## Alike -/

mutual

/-- Whether two values are the same up to the order of members. -/
def alike : Json → Json → Bool
  | .array xs, .array ys => alikeItems xs ys
  | .object xs, .object ys => xs.length = ys.length && alikeMembers xs ys
  | x, y => x = y

/-- Whether two lists of values are alike item by item. -/
def alikeItems : List Json → List Json → Bool
  | [], [] => true
  | x :: xs, y :: ys => x.alike y && alikeItems xs ys
  | _, _ => false

/-- Whether each of some members has a counterpart among others. -/
def alikeMembers : List (String × Json) → List (String × Json) → Bool
  | [], _ => true
  | (k, x) :: xs, ys =>
    (match lookup k ys with
      | some y => x.alike y
      | none => false) && alikeMembers xs ys

end

/-! ## Sorted values -/

theorem sortedItems_eq_map (items : List Json) : sortedItems items = items.map sorted := by
  induction items with
  | nil => rfl
  | cons x xs ih => rw [sortedItems, ih, List.map_cons]

theorem sortedMembers_eq_map (members : List (String × Json)) :
    sortedMembers members = members.map fun m => (m.1, m.2.sorted) := by
  induction members with
  | nil => rfl
  | cons m members ih => rw [sortedMembers, ih, List.map_cons]

theorem sortMembers_perm (members : List (String × Json)) :
    (sortMembers members).Perm members := List.mergeSort_perm ..

/-- Members with different names agree once sorted when they are the same ones. -/
theorem sortMembers_eq_iff {xs ys : List (String × Json)} (distinct : (xs.map Prod.fst).Nodup) :
    sortMembers xs = sortMembers ys ↔ xs.Perm ys := by
  constructor
  · intro same
    exact (sortMembers_perm xs).symm.trans (same ▸ sortMembers_perm ys)
  · intro perm
    have order (members : List (String × Json)) :
        (sortMembers members).Pairwise fun a b => decide (a.1 ≤ b.1) = true :=
      List.pairwise_mergeSort (by simpa using fun _ _ _ => String.le_trans)
        (by simpa using String.le_total) members
    have aligned : (sortMembers xs).Perm (sortMembers ys) :=
      (sortMembers_perm xs).trans (perm.trans (sortMembers_perm ys).symm)
    refine aligned.eq_of_pairwise (fun a b ha hb ab ba => ?_) (order xs) (order ys)
    have name : a.1 = b.1 := String.le_antisymm (by simpa using ab) (by simpa using ba)
    have ha : a ∈ xs := (sortMembers_perm xs).mem_iff.mp ha
    have hb : b ∈ xs := perm.mem_iff.mpr ((sortMembers_perm ys).mem_iff.mp hb)
    exact List.inj_on_of_nodup_map distinct ha hb name

/-! ## Alike values agree once sorted -/

/-- The value under a name is the one of the member with the name. -/
theorem lookup_eq_some_iff {members : List (String × Json)} {name : String} {value : Json}
    (distinct : (members.map Prod.fst).Nodup) :
    lookup name members = some value ↔ (name, value) ∈ members := by
  induction members with
  | nil => simp [lookup]
  | cons m members ih =>
    rw [List.map_cons, List.nodup_cons] at distinct
    have tail := ih distinct.2
    unfold lookup at tail ⊢
    rw [List.find?_cons, List.mem_cons]
    by_cases here : m.1 = name
    · have absent : (name, value) ∉ members := fun h =>
        distinct.1 (here ▸ List.mem_map_of_mem (f := Prod.fst) h)
      simp [here, absent, Prod.ext_iff, eq_comm]
    · have other : (name, value) ≠ m := fun h => here (congrArg Prod.fst h.symm)
      simp [here, other, tail]

/-- Each of some members has a counterpart among others of different names. -/
theorem alikeMembers_iff {xs ys : List (String × Json)} (distinct : (ys.map Prod.fst).Nodup) :
    alikeMembers xs ys = true ↔ ∀ m ∈ xs, ∃ y, (m.1, y) ∈ ys ∧ m.2.alike y = true := by
  induction xs with
  | nil => simp [alikeMembers]
  | cons m xs ih =>
    rw [alikeMembers, Bool.and_eq_true, ih, List.forall_mem_cons]
    refine and_congr_left fun _ => ?_
    constructor
    · intro h
      split at h
      · rename_i y found
        exact ⟨y, (lookup_eq_some_iff distinct).mp found, h⟩
      · exact absurd h (by simp)
    · rintro ⟨y, member, h⟩
      rw [(lookup_eq_some_iff distinct).mpr member]
      exact h

/-- Proper values are the same up to the order of members when they agree once sorted. -/
theorem alike_iff_sorted {p q : Json} (hp : p.isProper = true) (hq : q.isProper = true) :
    p.alike q = true ↔ p.sorted = q.sorted := by
  induction p using within generalizing q with
  | null | bool | number | string => cases q <;> simp [alike, sorted]
  | array xs ih =>
    cases q with
    | array ys =>
      rw [isProper_array] at hp hq
      rw [alike, sorted, sorted, Json.array.injEq]
      induction xs generalizing ys with
      | nil => cases ys <;> simp [alikeItems, sortedItems]
      | cons x xs tail =>
        cases ys with
        | nil => simp [alikeItems, sortedItems]
        | cons y ys =>
          rw [List.forall_mem_cons] at ih hp hq
          rw [alikeItems, sortedItems, sortedItems, Bool.and_eq_true, List.cons.injEq,
            ih.1 hp.1 hq.1, tail ih.2 hp.2 ys hq.2]
    | _ => simp [alike, sorted]
  | object xs ih =>
    cases q with
    | object ys =>
      obtain ⟨xsDistinct, xsProper⟩ := isProper_object.mp hp
      obtain ⟨ysDistinct, ysProper⟩ := isProper_object.mp hq
      rw [alike, sorted, sorted, Json.object.injEq, sortedMembers_eq_map, sortedMembers_eq_map,
        Bool.and_eq_true, decide_eq_true_eq, alikeMembers_iff ysDistinct]
      have names : ((xs.map fun m => (m.1, m.2.sorted)).map Prod.fst).Nodup := by
        rwa [List.map_map]
      rw [sortMembers_eq_iff names]
      constructor
      · rintro ⟨length, counterparts⟩
        refine (List.subperm_of_subset names.of_map ?_).perm_of_length_le (by simp [length])
        intro m' h
        obtain ⟨m, hm, rfl⟩ := List.mem_map.mp h
        obtain ⟨y, hy, same⟩ := counterparts m hm
        refine List.mem_map.mpr ⟨(m.1, y), hy, ?_⟩
        rw [(ih m hm (xsProper m hm) (ysProper _ hy)).mp same]
      · intro perm
        refine ⟨by simpa using perm.length_eq, fun m hm => ?_⟩
        have sortedMember : (m.1, m.2.sorted) ∈ xs.map fun m => (m.1, m.2.sorted) :=
          List.mem_map.mpr ⟨m, hm, rfl⟩
        obtain ⟨n, hn, same⟩ := List.mem_map.mp (perm.mem_iff.mp sortedMember)
        obtain ⟨name, value⟩ := Prod.mk.inj same
        exact ⟨n.2, name ▸ hn, (ih m hm (xsProper m hm) (ysProper n hn)).mpr value.symm⟩
    | _ => simp [alike, sorted]

/-- Sorting keeps a value proper. -/
theorem isProper_sorted {p : Json} (hp : p.isProper = true) : p.sorted.isProper = true := by
  induction p using within with
  | null | bool | string => rfl
  | number => exact hp
  | array xs ih =>
    rw [isProper_array] at hp
    rw [sorted, isProper_array, sortedItems_eq_map, List.forall_mem_map]
    exact fun x hx => ih x hx (hp x hx)
  | object xs ih =>
    obtain ⟨distinct, proper⟩ := isProper_object.mp hp
    rw [sorted, isProper_object, sortedMembers_eq_map]
    constructor
    · have names := (sortMembers_perm (xs.map fun m => (m.1, m.2.sorted))).map Prod.fst
      rw [names.nodup_iff, List.map_map]
      exact distinct
    · intro m hm
      obtain ⟨x, hx, rfl⟩ := List.mem_map.mp ((sortMembers_perm _).mem_iff.mp hm)
      exact ih x hx (proper x hx)

end JobQueue.Json
