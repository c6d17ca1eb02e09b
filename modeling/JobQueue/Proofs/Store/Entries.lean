import JobQueue.Store.Basic
import Mathlib.Data.List.Nodup

/-!
# Entries that are put in

Jobs and dead-letter records are put in alike: in the place of the entry with their identifier, or
behind the others.

* `Store.find?_putBy` and `Store.mem_putBy`: what is found then, and what there is.
* `Store.putBy_of_absent` and `Store.map_putBy_of_present`: an entry with a new identifier stands
  behind the others, and another one in the place of its own. So identifiers stay distinct
  (`Store.nodup_putBy`).
* `Store.putBy_perm`: putting an entry in the place of another one leaves the others as they are.
-/

namespace JobQueue.Store

variable {α : Type} {id : α → Uuid} {entry other old : α} {entries : List α}

theorem putBy_cons (id : α → Uuid) (entry other : α) (entries : List α) :
    putBy id entry (other :: entries) =
      if id other = id entry then entry :: entries else other :: putBy id entry entries := rfl

/-- An entry that is put in is found under its identifier, and under every other one what was found
before. -/
theorem find?_putBy (id : α → Uuid) (entry : α) (entries : List α) (target : Uuid) :
    (putBy id entry entries).find? (fun other => id other = target) =
      if id entry = target then some entry else entries.find? fun other => id other = target := by
  induction entries with
  | nil => by_cases h : id entry = target <;> simp [putBy, h]
  | cons other rest ih =>
    rw [putBy_cons]
    by_cases taken : id other = id entry
    · by_cases h : id entry = target <;> simp [taken, h]
    · by_cases h : id other = target
      · have differs : ¬id entry = target := fun same => taken (h.trans same.symm)
        simp [h, differs, Ne.symm differs]
      · simpa [taken, h] using ih

/-- What is in the list after an entry was put in is that entry, or was there before. -/
theorem mem_putBy (h : other ∈ putBy id entry entries) : other = entry ∨ other ∈ entries := by
  induction entries with
  | nil => exact .inl (List.mem_singleton.mp h)
  | cons first rest ih =>
    rw [putBy_cons] at h
    split at h
    · exact (List.mem_cons.mp h).imp_right (List.mem_cons_of_mem first)
    · rcases List.mem_cons.mp h with rfl | h
      · exact .inr List.mem_cons_self
      · exact (ih h).imp_right (List.mem_cons_of_mem first)

/-- An entry with a new identifier is put behind the others. -/
theorem putBy_of_absent (absent : ∀ other ∈ entries, id other ≠ id entry) :
    putBy id entry entries = entries ++ [entry] := by
  induction entries with
  | nil => rfl
  | cons other rest ih =>
    rw [List.forall_mem_cons] at absent
    rw [putBy_cons, if_neg absent.1, ih absent.2, List.cons_append]

/-- An entry that is put in the place of another one takes that place, and moves no other. -/
theorem map_putBy_of_present (present : ∃ other ∈ entries, id other = id entry) :
    (putBy id entry entries).map id = entries.map id := by
  induction entries with
  | nil =>
    obtain ⟨other, listed, -⟩ := present
    cases listed
  | cons first rest ih =>
    rw [putBy_cons]
    by_cases same : id first = id entry
    · rw [if_pos same, List.map_cons, List.map_cons, same]
    · rw [if_neg same, List.map_cons, List.map_cons, ih]
      obtain ⟨other, listed, taken⟩ := present
      rcases List.mem_cons.mp listed with rfl | listed
      · exact absurd taken same
      · exact ⟨other, listed, taken⟩

/-- Identifiers stay distinct. -/
theorem nodup_putBy (unique : (entries.map id).Nodup) : ((putBy id entry entries).map id).Nodup := by
  by_cases present : ∃ other ∈ entries, id other = id entry
  · rw [map_putBy_of_present present]
    exact unique
  · have absent : id entry ∉ entries.map id := by
      intro listed
      exact present (List.mem_map.mp listed)
    rw [putBy_of_absent fun other listed same => present ⟨other, listed, same⟩, List.map_append,
      List.map_singleton, ← List.concat_eq_append]
    exact unique.concat absent

/-- Putting an entry in the place of another one leaves the others as they are. -/
theorem putBy_perm (unique : (entries.map id).Nodup) (mem : old ∈ entries)
    (same : id entry = id old) :
    ∃ rest, entries.Perm (old :: rest) ∧ (putBy id entry entries).Perm (entry :: rest) := by
  induction entries with
  | nil => cases mem
  | cons first rest ih =>
    rw [List.map_cons, List.nodup_cons] at unique
    rw [putBy_cons]
    rcases List.mem_cons.mp mem with rfl | mem
    · rw [if_pos same.symm]
      exact ⟨rest, .refl _, .refl _⟩
    · have differs : ¬id first = id entry := fun taken =>
        unique.1 (taken.trans same ▸ List.mem_map_of_mem mem)
      obtain ⟨others, before, after⟩ := ih unique.2 mem
      rw [if_neg differs]
      exact ⟨first :: others, (before.cons first).trans (.swap ..),
        (after.cons first).trans (.swap ..)⟩

end JobQueue.Store
