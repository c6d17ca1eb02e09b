import JobQueue.Settings.Layers

/-!
# Values off a path

Values of settings are put into one another at paths. What stands off the path is the same after as
before, and two values that differ only at one path still do after the same was put into both at
another.

* `Value.under?` and `Value.lookup`: what is given under a key, and under one key after the other.
* `Value.AgreeOff`: two values have the same under every key, but for what lies on the way along some
  keys. A list has nothing under any key.
* `Value.agreeOff_modifyAt` and `Value.AgreeOff.modifyAt`: a change at those keys, and the same change
  anywhere in both values.
* `Value.AgreeOff.lookup_eq`: what is found under other keys is the same.
-/

namespace JobQueue.Settings.Value

variable {change : Value → Value} {k name : String} {keys rest : List String} {steps : List Step}
  {u v w x : Value} {entries : List (String × Value)}

/-! ## Under a key -/

/-- What is given under a key, if anything is. -/
def under? (v : Value) (name : String) : Option Value :=
  (v.entries.find? fun e => e.1 = name).map (·.2)

/-- What is given under the last of some keys, each within what is given under the one before. -/
def lookup : List String → Value → Option Value
  | [], v => some v
  | k :: keys, v => (v.under? k).bind (lookup keys)

/-- The value is a list. -/
def isList : Value → Bool
  | .list _ => true
  | _ => false

theorem find_entries (v : Value) (name : String) :
    find name v.entries = (v.under? name).getD .absent := rfl

theorem under?_putEntry (k name : String) (x : Value) (entries : List (String × Value)) :
    (table (putEntry k x entries)).under? name =
      if name = k then some x else (table entries).under? name := by
  induction entries with
  | nil =>
    by_cases same : name = k
    · simp [under?, putEntry, Value.entries, same]
    · simp [under?, putEntry, Value.entries, same, Ne.symm same]
  | cons e entries ih =>
    simp only [under?, Value.entries] at ih
    by_cases here : e.1 = k
    · by_cases same : name = k
      · simp [under?, putEntry, Value.entries, here, same]
      · simp [under?, putEntry, Value.entries, here, same, Ne.symm same]
    · by_cases found : e.1 = name
      · have other : ¬name = k := found ▸ here
        simp [under?, putEntry, Value.entries, found, other]
      · simp [under?, putEntry, Value.entries, here, found, ih]

/-- A change behind a key is seen under that key alone. -/
theorem under?_modifyAt_key (change : Value → Value) (k name : String) (steps : List Step)
    (v : Value) :
    (modifyAt change (.key k :: steps) v).under? name =
      if name = k then some (modifyAt change steps (find k v.entries)) else v.under? name :=
  under?_putEntry k name _ v.entries

theorem find_modifyAt_key (change : Value → Value) (k name : String) (steps : List Step)
    (v : Value) :
    find name (modifyAt change (.key k :: steps) v).entries =
      if name = k then modifyAt change steps (find k v.entries) else find name v.entries := by
  rw [find_entries, under?_modifyAt_key]
  split
  · rfl
  · rfl

/-- A change at a place leaves a list, which has no keys. -/
theorem under?_modifyAt_place (change : Value → Value) (index : Int) (steps : List Step) (v : Value)
    (name : String) : (modifyAt change (.place index :: steps) v).under? name = none := rfl

/-- Whether a list is left where a value is put does not hang on what was there. -/
theorem isList_modifyAt (x : Value) (steps : List Step) (v w : Value) :
    (modifyAt (fun _ => x) steps v).isList = (modifyAt (fun _ => x) steps w).isList := by
  cases steps with
  | nil => rfl
  | cons step steps =>
    cases step with
    | key name => rfl
    | place index => rfl

theorem lookup_singleton (name : String) (v : Value) : lookup [name] v = v.under? name := by
  rw [lookup]
  cases v.under? name with
  | none => rfl
  | some u => rfl

/-- What is found under several keys is found from the first on. -/
theorem lookup_cons (k : String) (ne : keys ≠ []) (v : Value) :
    lookup (k :: keys) v = lookup keys (find k v.entries) := by
  rw [lookup, find_entries]
  cases v.under? k with
  | some u => rfl
  | none =>
    -- nothing is found within what is absent
    obtain ⟨name, rest, rfl⟩ := List.exists_cons_of_ne_nil ne
    rfl

/-- Nothing is found in a list. -/
theorem lookup_of_isList (list : v.isList = true) (ne : keys ≠ []) : lookup keys v = none := by
  obtain ⟨name, rest, rfl⟩ := List.exists_cons_of_ne_nil ne
  cases v with
  | list items => rfl
  | _ => cases list

/-! ## Agreement off a path -/

/-- Two values have the same under every key, but for what lies under the last of some keys, each
within the one before. -/
def AgreeOff : List String → Value → Value → Prop
  | [], _, _ => True
  | k :: keys, v, w => (∀ name, name ≠ k → v.under? name = w.under? name) ∧
      AgreeOff keys (find k v.entries) (find k w.entries)

theorem agreeOff_refl (keys : List String) (v : Value) : AgreeOff keys v v := by
  induction keys generalizing v with
  | nil => trivial
  | cons k keys ih => exact ⟨fun _ _ => rfl, ih _⟩

/-- A change at some keys leaves everything off them as it was. -/
theorem agreeOff_modifyAt (change : Value → Value) (keys : List String) (v : Value) :
    AgreeOff keys v (modifyAt change (keys.map .key) v) := by
  induction keys generalizing v with
  | nil => trivial
  | cons k keys ih =>
    rw [List.map_cons]
    constructor
    · intro name other
      rw [under?_modifyAt_key, if_neg other]
    · rw [find_modifyAt_key, if_pos rfl]
      exact ih _

/-- Two values agree as before when the same is put into both at the same place. -/
theorem AgreeOff.modifyAt (h : AgreeOff keys v w) (x : Value) (steps : List Step) :
    AgreeOff keys (modifyAt (fun _ => x) steps v) (modifyAt (fun _ => x) steps w) := by
  induction keys generalizing steps v w with
  | nil => trivial
  | cons k keys ih =>
    cases steps with
    | nil => exact agreeOff_refl _ x
    | cons step steps =>
      cases step with
      | place index =>
        -- both have become lists
        refine ⟨?_, agreeOff_refl keys .absent⟩
        intro name other
        rw [under?_modifyAt_place, under?_modifyAt_place]
      | key name =>
        obtain ⟨off, along⟩ := h
        constructor
        · intro other ne
          rw [under?_modifyAt_key, under?_modifyAt_key]
          by_cases here : other = name
          · rw [if_pos here, if_pos here, find_entries, find_entries, off name (here ▸ ne)]
          · rw [if_neg here, if_neg here, off other ne]
        · rw [find_modifyAt_key, find_modifyAt_key]
          by_cases here : k = name
          · rw [if_pos here, if_pos here, ← here]
            exact ih along steps
          · rw [if_neg here, if_neg here]
            exact along

/-- What is found under keys that do not lead along the path is the same. -/
theorem AgreeOff.lookup_eq (h : AgreeOff keys v w) (beyond : ¬keys <+: rest)
    (short : ¬rest <+: keys) : lookup rest v = lookup rest w := by
  induction keys generalizing rest v w with
  | nil => exact absurd List.nil_prefix beyond
  | cons k keys ih =>
    obtain ⟨off, along⟩ := h
    cases rest with
    | nil => exact absurd List.nil_prefix short
    | cons name rest =>
      by_cases here : name = k
      · subst here
        have beyond' : ¬keys <+: rest := fun h => beyond (List.cons_prefix_cons.mpr ⟨rfl, h⟩)
        have short' : ¬rest <+: keys := fun h => short (List.cons_prefix_cons.mpr ⟨rfl, h⟩)
        have some_key : rest ≠ [] := by
          rintro rfl
          exact short' List.nil_prefix
        rw [lookup_cons name some_key, lookup_cons name some_key]
        exact ih along beyond' short'
      · rw [lookup, lookup, off name here]

end JobQueue.Settings.Value
