import JobQueue.Proofs.Settings.Prefix

/-!
# One variable and the other settings

A variable of the environment speaks for one setting. It is put over what the settings file and the
other variables give, wherever it stands among these, and what they give for other settings is the
same with it and without it. But a backoff policy may be given as a list, and a list that a variable
is put into gives way to a table: then the rest of the policy is lost.

* `Settings.assign`: what one variable does to the values, and `Settings.layers_eq_foldl`.
* `Settings.Frame`: two values differ along some keys only, and have lists at the same ones.
  `Frame.assign` and `Frame.foldl` keep it, one variable after the other.
* `Settings.load_frame`: what comes of one variable more.
-/

namespace JobQueue.Settings

open Value

variable {keys : List String} {v w root : Value} {file : String}
  {entries : List (String × Value)} {environment before after : List (String × String)}
  {f g : Setting} {name text : String} {s t : Settings}

/-! ## One variable after the other -/

/-- The path that a variable speaks for, if it is one of the queue's. -/
def variablePath? (name : String) : Option Path := (ofVariable? name "").map fun e => .ofText e.1

/-- A variable put over the values. -/
def assign (root : Value) (entry : String × String) : Value :=
  (variablePath? entry.1).elim root fun path => put path (variableValue entry.2) root

theorem ofVariable?_eq (name text : String) :
    ofVariable? name text = (ofVariable? name "").map fun e => (e.1, variableValue text) := by
  unfold ofVariable?
  dsimp only
  split
  · rfl
  · rfl

theorem layers_eq_foldl (entries : List (String × Value)) (environment : List (String × String)) :
    layers entries environment = environment.foldl assign (lay entries (.table [])) := by
  unfold layers
  generalize lay entries (.table []) = root
  induction environment generalizing root with
  | nil => rfl
  | cons entry environment ih =>
    rw [List.filterMap_cons, ofVariable?_eq, List.foldl_cons, ← ih]
    unfold assign variablePath?
    cases ofVariable? entry.1 "" with
    | none => rfl
    | some e => rfl

theorem layers_append (entries : List (String × Value)) (before after : List (String × String)) :
    layers entries (before ++ after) = after.foldl assign (layers entries before) := by
  rw [layers_eq_foldl, layers_eq_foldl, List.foldl_append]

/-- A variable of the queue changes what is at its path. -/
theorem assign_of_path {path : Path} (speaks : variablePath? name = some path) (text : String)
    (root : Value) :
    assign root (name, text) =
      modifyAt (fun _ => variableValue text) (.key path.head :: path.rest) root := by
  rw [assign, speaks, Option.elim_some, put, layOver_variableValue]

/-- The variable of a setting speaks for its keys. -/
theorem variablePath?_variableName (f : Setting) :
    variablePath? f.variableName = some ⟨f.keys.headD "", f.keys.tail.map .key⟩ := by
  revert f
  decide +kernel

theorem assign_variableName (f : Setting) (text : String) (root : Value) :
    assign root (f.variableName, text) =
      modifyAt (fun _ => variableValue text) (f.keys.map .key) root := by
  have steps : Step.key (f.keys.headD "") :: f.keys.tail.map .key = f.keys.map .key := by
    cases f <;> rfl
  rw [assign_of_path (variablePath?_variableName f), steps]

/-! ## With a variable and without it -/

/-- Two values agree but for what lies along some keys, and where the second has a list the first has
one too. -/
structure Frame (keys : List String) (v w : Value) : Prop where
  agree : AgreeOff keys v w
  lists : ∀ k, (find k w.entries).isList = true → (find k v.entries).isList = true

/-- A variable put over both changes nothing in this. -/
theorem Frame.assign (h : Frame keys v w) (entry : String × String) :
    Frame keys (assign v entry) (assign w entry) := by
  obtain ⟨name, text⟩ := entry
  cases speaks : variablePath? name with
  | none =>
    rw [Settings.assign, Settings.assign, speaks]
    exact h
  | some path =>
    rw [assign_of_path speaks, assign_of_path speaks]
    refine ⟨h.agree.modifyAt _ _, ?_⟩
    intro k
    rw [find_modifyAt_key, find_modifyAt_key]
    by_cases here : k = path.head
    · rw [if_pos here, if_pos here, isList_modifyAt _ _ _ (find path.head v.entries)]
      exact id
    · rw [if_neg here, if_neg here]
      exact h.lists k

/-- So it is with any variables, one after the other. -/
theorem Frame.foldl (h : Frame keys v w) (environment : List (String × String)) :
    Frame keys (environment.foldl Settings.assign v) (environment.foldl Settings.assign w) := by
  induction environment generalizing v w with
  | nil => exact h
  | cons entry environment ih => exact ih (h.assign entry)

/-- What is put at some keys, and is no list, changes what lies along these alone, and leaves no list
there. -/
theorem frame_modifyAt {x : Value} (flat : x.isList = false) (ne : keys ≠ []) (root : Value) :
    Frame keys root (modifyAt (fun _ => x) (keys.map .key) root) := by
  refine ⟨agreeOff_modifyAt _ _ root, ?_⟩
  obtain ⟨first, rest, rfl⟩ := List.exists_cons_of_ne_nil ne
  intro k list
  rw [List.map_cons, find_modifyAt_key] at list
  by_cases here : k = first
  · rw [if_pos here] at list
    cases rest with
    | nil =>
      rw [List.map_nil, modifyAt, flat] at list
      cases list
    | cons second rest => cases list
  · rwa [if_neg here] at list

/-- The variable of a setting changes what lies along its keys alone. -/
theorem frame_variable (f : Setting) (text : String) (root : Value) :
    Frame f.keys root (assign root (f.variableName, text)) := by
  rw [assign_variableName]
  exact frame_modifyAt (isList_variableValue text) f.keys_ne_nil root

/-- Where two values differ along the keys of one setting only, the others are the same: those of the
policy too, if it is no list in the first or the one setting is not of the policy. -/
theorem Frame.value_eq (h : Frame f.keys v w) (first : ofValue? v = some s)
    (second : ofValue? w = some t) (other : g ≠ f)
    (apart : f.isBackoff = true → g.isBackoff = true →
      (find "backoff" v.entries).isList = false) :
    g.value t = g.value s := by
  have readings : g.reading v = g.reading w := by
    unfold Setting.reading
    rw [h.agree.lookup_eq (Setting.not_keys_prefix (Ne.symm other)) (Setting.not_keys_prefix other)]
  obtain ⟨fields, policy⟩ := Setting.fields_of_ofValue? first
  obtain ⟨fields', policy'⟩ := Setting.fields_of_ofValue? second
  by_cases of_policy : g.isBackoff = true
  · by_cases same_policy : f.isBackoff = true
    · have tabular := apart same_policy of_policy
      have tabular' : (find "backoff" w.entries).isList = false := by
        rw [Bool.eq_false_iff] at tabular ⊢
        exact fun list => tabular (h.lists _ list)
      rw [Setting.reading_of_ofValue? first tabular, Setting.reading_of_ofValue? second tabular']
        at readings
      exact (Option.some.inj readings).symm
    · -- the policy is off the keys as a whole
      rw [Bool.not_eq_true] at same_policy
      obtain ⟨beyond, short⟩ := Setting.not_prefix_backoff same_policy
      have whole := h.agree.lookup_eq beyond short
      rw [lookup_singleton, lookup_singleton] at whole
      rw [whole, policy'] at policy
      exact Setting.value_eq_of_backoff_eq of_policy (Option.some.inj policy)
  · rw [Bool.not_eq_true] at of_policy
    rw [fields g of_policy, fields' g of_policy] at readings
    exact (Option.some.inj readings).symm

/-! ## A list that a variable is put into -/

/-- The variable speaks for something under a key. -/
def leadsTo (name k : String) : Bool := (variablePath? name).any fun path => path.head = k

/-- Variables that speak for something under other keys leave what is under a key. -/
theorem find_foldl_assign {k : String} (apart : ∀ entry ∈ environment, leadsTo entry.1 k = false)
    (root : Value) :
    find k (environment.foldl assign root).entries = find k root.entries := by
  induction environment generalizing root with
  | nil => rfl
  | cons entry environment ih =>
    obtain ⟨name, text⟩ := entry
    rw [List.forall_mem_cons] at apart
    rw [List.foldl_cons, ih apart.2]
    have here := apart.1
    unfold leadsTo at here
    cases speaks : variablePath? name with
    | none => rw [assign, speaks, Option.elim_none]
    | some path =>
      rw [speaks, Option.any_some, decide_eq_false_iff_not] at here
      rw [assign_of_path speaks, find_modifyAt_key, if_neg (Ne.symm here)]

/-- Where a variable of the policy is put into a list and no other speaks for the policy behind it,
the rest of the policy falls back to the standard one. -/
theorem value_eq_standard (list : (find "backoff" root.entries).isList = true)
    (hf : f.isBackoff = true) (apart : ∀ entry ∈ after, leadsTo entry.1 "backoff" = false)
    (made : ofValue? (after.foldl assign (assign root (f.variableName, text))) = some t)
    (other : g ≠ f) (hg : g.isBackoff = true) : g.value t = g.value standard := by
  obtain ⟨own, own_keys⟩ := Setting.keys_of_isBackoff hf
  obtain ⟨key, other_keys⟩ := Setting.keys_of_isBackoff hg
  have policy : find "backoff" (after.foldl assign (assign root (f.variableName, text))).entries =
      modifyAt (fun _ => variableValue text) ([own].map .key) (find "backoff" root.entries) := by
    rw [find_foldl_assign apart, assign_variableName, own_keys, List.map_cons, find_modifyAt_key,
      if_pos rfl]
  have reading := Setting.reading_of_ofValue? made (by rw [policy]; rfl) g
  have beyond := Setting.not_keys_prefix (Ne.symm other)
  have short := Setting.not_keys_prefix other
  rw [own_keys, other_keys, List.cons_prefix_cons, not_and] at beyond short
  have lost : lookup g.keys (after.foldl assign (assign root (f.variableName, text))) = none := by
    rw [other_keys, lookup_cons _ (List.cons_ne_nil key []), policy,
      ← (agreeOff_modifyAt _ [own] _).lookup_eq (beyond rfl) (short rfl)]
    exact lookup_of_isList list (List.cons_ne_nil key [])
  rw [Setting.reading, lost] at reading
  exact (Option.some.inj reading).symm

/-! ## Loading -/

/-- The settings file and the environment give the backoff policy as a list. -/
def listsBackoff (file : String) (environment : List (String × String)) : Bool :=
  (Toml.parse file).any fun entries =>
    (find "backoff" (layers entries environment).entries).isList

/-- What is loaded is made of the values of the file with the environment over them. -/
theorem ofValue?_of_load (loaded : load (some file) environment = .ok s) :
    ∃ entries, Toml.parse file = some entries ∧
      ofValue? (layers entries environment) = some s := by
  unfold load at loaded
  cases parsed : Toml.parse file with
  | none =>
    simp only [parsed] at loaded
    cases loaded
  | some entries =>
    simp only [parsed, pure_bind] at loaded
    refine ⟨entries, rfl, ?_⟩
    cases made : ofValue? (layers entries environment) with
    | none =>
      rw [made] at loaded
      cases loaded
    | some r =>
      simp only [made] at loaded
      cases valid : r.validate with
      | ok _ =>
        rw [valid] at loaded
        cases loaded
        rfl
      | error rule =>
        rw [valid] at loaded
        cases loaded

/-- **One variable and the other settings.** Let settings be loaded from a file and an environment,
once without the variable of a setting and once with it, whatever its text and wherever it stands
among the others. All other settings are the same both times, but for those of the backoff policy
where the setting is one of the policy too and the policy was given as a list. There, if nothing
behind the variable speaks for the policy, the rest of the list is lost, and each other setting of
the policy has its standard value. -/
theorem load_frame (without : load (some file) (before ++ after) = .ok s)
    (given : load (some file) (before ++ (f.variableName, text) :: after) = .ok t) :
    (∀ g, g ≠ f →
      ¬(f.isBackoff = true ∧ g.isBackoff = true ∧ listsBackoff file (before ++ after) = true) →
      g.value t = g.value s) ∧
    (f.isBackoff = true → listsBackoff file (before ++ after) = true →
      (∀ entry ∈ after, leadsTo entry.1 "backoff" = false) →
      ∀ g, g ≠ f → g.isBackoff = true → g.value t = g.value standard) := by
  obtain ⟨entries, parsed, made⟩ := ofValue?_of_load without
  obtain ⟨entries', parsed', made'⟩ := ofValue?_of_load given
  obtain rfl : entries = entries' := Option.some.inj (parsed.symm.trans parsed')
  have lists : listsBackoff file (before ++ after) =
      (find "backoff" (layers entries (before ++ after)).entries).isList := by
    rw [listsBackoff, parsed, Option.any_some]
  rw [layers_append] at made made' lists
  rw [List.foldl_cons] at made'
  rw [lists]
  constructor
  · intro g other apart
    have frame := (frame_variable f text (layers entries before)).foldl after
    refine frame.value_eq made made' other fun hf hg => ?_
    rw [Bool.eq_false_iff]
    exact fun list => apart ⟨hf, hg, list⟩
  · intro hf list behind g other hg
    rw [find_foldl_assign behind] at list
    exact value_eq_standard list hf behind made' other hg

/-- A policy that is a table keeps its cap when the environment sets the base. -/
theorem load_frame_table :
    ∃ s t, load (some "[backoff]\nmax_ms = 10000") ([("PATH", "/bin")] ++ []) = .ok s ∧
      load (some "[backoff]\nmax_ms = 10000")
        ([("PATH", "/bin")] ++ (Setting.backoffBaseMs.variableName, "250") :: []) = .ok t ∧
      Setting.backoffMaxMs.value t = Setting.backoffMaxMs.value s ∧ s.backoff.maxMs = 10000 := by
  have without : load (some "[backoff]\nmax_ms = 10000") ([("PATH", "/bin")] ++ []) =
      .ok { standard with backoff := { Backoff.standard with maxMs := 10000 } } := by
    decide +kernel
  have given : load (some "[backoff]\nmax_ms = 10000")
      ([("PATH", "/bin")] ++ (Setting.backoffBaseMs.variableName, "250") :: []) =
      .ok { standard with backoff := { Backoff.standard with baseMs := 250, maxMs := 10000 } } := by
    decide +kernel
  have tabular : listsBackoff "[backoff]\nmax_ms = 10000" ([("PATH", "/bin")] ++ []) = false := by
    decide +kernel
  refine ⟨_, _, without, given, ?_, rfl⟩
  refine (load_frame without given).1 _ (by decide) ?_
  rw [tabular]
  simp

/-- A policy that is a list loses its cap when the environment sets the base. -/
theorem load_loses_maxMs :
    ∃ s t, load (some "backoff = [500, 2.0, 10000]") [] = .ok s ∧
      load (some "backoff = [500, 2.0, 10000]")
        [(Setting.backoffBaseMs.variableName, "250")] = .ok t ∧
      Setting.backoffMaxMs ≠ Setting.backoffBaseMs ∧
      Setting.backoffMaxMs.value t ≠ Setting.backoffMaxMs.value s := by
  refine ⟨{ standard with backoff := { Backoff.standard with baseMs := 500, maxMs := 10000 } },
    { standard with backoff := { Backoff.standard with baseMs := 250 } }, ?_, ?_, ?_, ?_⟩
  · decide +kernel
  · decide +kernel
  · decide
  · decide

end JobQueue.Settings
