import JobQueue.Proofs.Settings.Paths
import JobQueue.Settings.Load
import Mathlib.Data.Fintype.OfMap

/-!
# Settings one by one

Settings are a record, and the backoff policy in them another one. Here each of the twelve settings
in it stands for itself: it has its keys, its variable, and a way of its own of being read.

* `Settings.fieldOr_named`: what a field of a record comes to, given by name.
* `Setting.keys`, `Setting.variableName` and `Setting.value`: where a setting is given, and what it
  is among others. `Setting.eq_of_value_eq`: there are no others.
* `Setting.fields_of_ofValue?` and `Setting.reading_of_ofValue?`: what is made of values gives each
  setting what is under its keys, or its standard value where there is nothing. For those of the
  policy this needs that it is no list.
-/

namespace JobQueue

namespace Settings

open Document

/-! ## Fields of a record -/

section

variable {v α β : Type} {source next : Source v} {a : α} {name : String} {standard : α}
  {read : v → Option α} {members : List (String × v)}

/-- A reader goes on where its first part ended. -/
theorem bind_reads {first : RecordReader v α} (rest : α → RecordReader v β)
    (reads : first source = some (a, next)) : (first >>= rest) source = rest a next := by
  show (first source).bind _ = _
  rw [reads]
  rfl

/-- A field that is among some members gives its value, and one that is not has its own. -/
theorem fieldOr_named :
    fieldOr name standard read (.named members) =
      (((members.find? fun m => m.1 = name).map (·.2)).elim (some standard) read).map
        (·, .named members) := by
  have taken : takeField name (.named members) =
      some ((members.find? fun m => m.1 = name).map (·.2), .named members) := rfl
  rw [fieldOr, bind_reads _ taken]
  cases (members.find? fun m => m.1 = name).map (·.2) with
  | none => rfl
  | some x =>
    show (read x).bind _ = (read x).map _
    cases read x with
    | none => rfl
    | some a => rfl

theorem fieldOr_reads
    (reads : ((members.find? fun m => m.1 = name).map (·.2)).elim (some standard) read = some a) :
    fieldOr name standard read (.named members) = some (a, .named members) := by
  rw [fieldOr_named, reads]
  rfl

/-- A record is read only if its first field is, and the rest behind it. -/
theorem exists_of_fieldOr_bind {rest : α → RecordReader v β} {r : β × Source v}
    (reads : (fieldOr name standard read >>= rest) (.named members) = some r) :
    ∃ a, ((members.find? fun m => m.1 = name).map (·.2)).elim (some standard) read = some a ∧
      rest a (.named members) = some r := by
  cases first : fieldOr name standard read (.named members) with
  | none =>
    have none : (fieldOr name standard read >>= rest) (.named members) = none := by
      show (fieldOr name standard read (.named members)).bind _ = _
      rw [first]
      rfl
    rw [none] at reads
    cases reads
  | some given =>
    rw [fieldOr_named, Option.map_eq_some_iff] at first
    obtain ⟨a, here, rfl⟩ := first
    rw [bind_reads _ (fieldOr_reads here)] at reads
    exact ⟨a, here, reads⟩

end

end Settings

/-! ## Single settings -/

/-- A setting, those of the backoff policy each by itself. -/
inductive Setting where
  | concurrency
  | idlePollIntervalMs
  | visibilityTimeoutMs
  | heartbeatIntervalMs
  | backoffBaseMs
  | backoffFactor
  | backoffMaxMs
  | defaultMaxAttempts
  | dlqRetentionDays
  | dlqPruneIntervalMs
  | shutdownTimeoutMs
  | workerPrefix
  deriving DecidableEq

namespace Setting

open Settings Settings.Value Document

instance : Fintype Setting :=
  .ofList [concurrency, idlePollIntervalMs, visibilityTimeoutMs, heartbeatIntervalMs, backoffBaseMs,
    backoffFactor, backoffMaxMs, defaultMaxAttempts, dlqRetentionDays, dlqPruneIntervalMs,
    shutdownTimeoutMs, workerPrefix] fun f => by cases f <;> decide

/-- The keys under which a setting is given. -/
def keys : Setting → List String
  | concurrency => ["concurrency"]
  | idlePollIntervalMs => ["idle_poll_interval_ms"]
  | visibilityTimeoutMs => ["visibility_timeout_ms"]
  | heartbeatIntervalMs => ["heartbeat_interval_ms"]
  | backoffBaseMs => ["backoff", "base_ms"]
  | backoffFactor => ["backoff", "factor"]
  | backoffMaxMs => ["backoff", "max_ms"]
  | defaultMaxAttempts => ["default_max_attempts"]
  | dlqRetentionDays => ["dlq_retention_days"]
  | dlqPruneIntervalMs => ["dlq_prune_interval_ms"]
  | shutdownTimeoutMs => ["shutdown_timeout_ms"]
  | workerPrefix => ["worker_prefix"]

/-- The name of the variable that sets a setting. -/
def variableName (f : Setting) : String := "DROVER_" ++ (String.intercalate "__" f.keys).toUpper

example : backoffBaseMs.variableName = "DROVER_BACKOFF__BASE_MS" := by decide +kernel

/-- The setting is one of the backoff policy. -/
def isBackoff : Setting → Bool
  | backoffBaseMs | backoffFactor | backoffMaxMs => true
  | _ => false

/-- What kind of value a setting has. -/
abbrev Kind : Setting → Type
  | defaultMaxAttempts => UInt32
  | dlqRetentionDays => Option UInt32
  | backoffFactor => Binary64
  | workerPrefix => String
  | _ => UInt64

/-- The value of a setting among settings. -/
def value : (f : Setting) → Settings → f.Kind
  | concurrency, s => s.concurrency
  | idlePollIntervalMs, s => s.idlePollIntervalMs
  | visibilityTimeoutMs, s => s.visibilityTimeoutMs
  | heartbeatIntervalMs, s => s.heartbeatIntervalMs
  | backoffBaseMs, s => s.backoff.baseMs
  | backoffFactor, s => s.backoff.factor
  | backoffMaxMs, s => s.backoff.maxMs
  | defaultMaxAttempts, s => s.defaultMaxAttempts
  | dlqRetentionDays, s => s.dlqRetentionDays
  | dlqPruneIntervalMs, s => s.dlqPruneIntervalMs
  | shutdownTimeoutMs, s => s.shutdownTimeoutMs
  | workerPrefix, s => s.workerPrefix

/-- How what is given for a setting is read. -/
def read : (f : Setting) → Value → Option f.Kind
  | concurrency => counter64?
  | idlePollIntervalMs => counter64?
  | visibilityTimeoutMs => counter64?
  | heartbeatIntervalMs => counter64?
  | backoffBaseMs => counter64?
  | backoffFactor => Value.toBinary64?
  | backoffMaxMs => counter64?
  | defaultMaxAttempts => counter32?
  | dlqRetentionDays => nullable Value.isAbsent counter32?
  | dlqPruneIntervalMs => counter64?
  | shutdownTimeoutMs => counter64?
  | workerPrefix => Value.toText?

/-- What values give a setting: what is under its keys, if anything is, and else its standard
value. -/
def reading (f : Setting) (root : Value) : Option f.Kind :=
  (root.lookup f.keys).elim (some (f.value standard)) f.read

variable {s t : Settings} {f g : Setting} {root : Value} {policy : Backoff}

/-- Settings that agree on every setting are the same. -/
theorem eq_of_value_eq (h : ∀ f : Setting, f.value s = f.value t) : s = t := by
  have policies : s.backoff = t.backoff := by
    rcases hs : s.backoff with ⟨baseMs, factor, maxMs⟩
    rcases ht : t.backoff with ⟨baseMs', factor', maxMs'⟩
    have base := h backoffBaseMs
    have factors := h backoffFactor
    have cap := h backoffMaxMs
    simp only [value, hs, ht] at base factors cap
    rw [base, factors, cap]
  rcases s with ⟨⟩
  rcases t with ⟨⟩
  exact Settings.mk.injEq .. ▸ ⟨h concurrency, h idlePollIntervalMs, h visibilityTimeoutMs,
    h heartbeatIntervalMs, policies, h defaultMaxAttempts, h dlqRetentionDays,
    h dlqPruneIntervalMs, h shutdownTimeoutMs, h workerPrefix⟩

theorem keys_ne_nil (f : Setting) : f.keys ≠ [] := by
  cases f <;> exact List.cons_ne_nil _ _

theorem keys_of_isBackoff (h : f.isBackoff = true) : ∃ key, f.keys = ["backoff", key] := by
  cases f with
  | backoffBaseMs | backoffFactor | backoffMaxMs => exact ⟨_, rfl⟩
  | _ => cases h

/-- The keys of settings outside of the policy are no way to it. -/
theorem not_prefix_backoff (h : f.isBackoff = false) :
    ¬f.keys <+: ["backoff"] ∧ ¬["backoff"] <+: f.keys := by
  revert f
  decide +kernel

/-- No setting is given within another one. -/
theorem not_keys_prefix (h : f ≠ g) : ¬f.keys <+: g.keys := by
  revert f g
  decide +kernel

theorem reading_of_keys {name : String} (single : f.keys = [name]) :
    f.reading root = (root.under? name).elim (some (f.value standard)) f.read := by
  rw [reading, single, lookup_singleton]

/-- A policy that is no list gives each of its settings what is under its key. -/
theorem reading_of_policy
    (reads : (root.under? "backoff").elim (some standard.backoff) backoff? = some policy)
    (tabular : (find "backoff" root.entries).isList = false) :
    backoffBaseMs.reading root = some policy.baseMs ∧
      backoffFactor.reading root = some policy.factor ∧
      backoffMaxMs.reading root = some policy.maxMs := by
  rw [find_entries] at tabular
  unfold reading
  simp only [keys, lookup_cons "backoff" (List.cons_ne_nil _ _), lookup_singleton, find_entries]
  cases given : root.under? "backoff" with
  | none =>
    rw [given] at reads
    obtain rfl : standard.backoff = policy := Option.some.inj reads
    exact ⟨rfl, rfl, rfl⟩
  | some v =>
    rw [given] at reads tabular
    cases v with
    | table entries =>
      have named : (backoffReader (.named entries)).map (·.1) = some policy := reads
      obtain ⟨⟨policy, rest⟩, fields, rfl⟩ := Option.map_eq_some_iff.mp named
      unfold backoffReader at fields
      obtain ⟨baseMs, base, fields⟩ := exists_of_fieldOr_bind fields
      obtain ⟨factor, factors, fields⟩ := exists_of_fieldOr_bind fields
      obtain ⟨maxMs, cap, fields⟩ := exists_of_fieldOr_bind fields
      cases fields
      exact ⟨base, factors, cap⟩
    | list items => cases tabular
    | absent => cases reads
    | bool b => cases reads
    | int n => cases reads
    | float x => cases reads
    | text s => cases reads

/-- What is made of values gives each setting outside of the policy what is under its key, and the
policy what is under its own. -/
theorem fields_of_ofValue? (made : ofValue? root = some s) :
    (∀ g : Setting, g.isBackoff = false → g.reading root = some (g.value s)) ∧
      (root.under? "backoff").elim (some standard.backoff) backoff? = some s.backoff := by
  obtain ⟨⟨s, rest⟩, fields, rfl⟩ := Option.map_eq_some_iff.mp made
  unfold valueReader at fields
  obtain ⟨_, concurrencies, fields⟩ := exists_of_fieldOr_bind fields
  obtain ⟨_, polls, fields⟩ := exists_of_fieldOr_bind fields
  obtain ⟨_, timeouts, fields⟩ := exists_of_fieldOr_bind fields
  obtain ⟨_, heartbeats, fields⟩ := exists_of_fieldOr_bind fields
  obtain ⟨_, policies, fields⟩ := exists_of_fieldOr_bind fields
  obtain ⟨_, attempts, fields⟩ := exists_of_fieldOr_bind fields
  obtain ⟨_, retentions, fields⟩ := exists_of_fieldOr_bind fields
  obtain ⟨_, prunes, fields⟩ := exists_of_fieldOr_bind fields
  obtain ⟨_, shutdowns, fields⟩ := exists_of_fieldOr_bind fields
  obtain ⟨_, prefixes, fields⟩ := exists_of_fieldOr_bind fields
  cases fields
  refine ⟨?_, policies⟩
  intro g outside
  cases g with
  | concurrency => exact (reading_of_keys rfl).trans concurrencies
  | idlePollIntervalMs => exact (reading_of_keys rfl).trans polls
  | visibilityTimeoutMs => exact (reading_of_keys rfl).trans timeouts
  | heartbeatIntervalMs => exact (reading_of_keys rfl).trans heartbeats
  | backoffBaseMs | backoffFactor | backoffMaxMs => cases outside
  | defaultMaxAttempts => exact (reading_of_keys rfl).trans attempts
  | dlqRetentionDays => exact (reading_of_keys rfl).trans retentions
  | dlqPruneIntervalMs => exact (reading_of_keys rfl).trans prunes
  | shutdownTimeoutMs => exact (reading_of_keys rfl).trans shutdowns
  | workerPrefix => exact (reading_of_keys rfl).trans prefixes

/-- Each setting gets what is under its keys, if the policy is no list. -/
theorem reading_of_ofValue? (made : ofValue? root = some s)
    (tabular : (find "backoff" root.entries).isList = false) (g : Setting) :
    g.reading root = some (g.value s) := by
  obtain ⟨fields, policy⟩ := fields_of_ofValue? made
  obtain ⟨base, factor, cap⟩ := reading_of_policy policy tabular
  cases g with
  | backoffBaseMs => exact base
  | backoffFactor => exact factor
  | backoffMaxMs => exact cap
  | _ => exact fields _ rfl

/-- The settings of the policy are told by the policy. -/
theorem value_eq_of_backoff_eq (h : g.isBackoff = true) (same : s.backoff = t.backoff) :
    g.value s = g.value t := by
  cases g with
  | backoffBaseMs => exact congrArg Backoff.baseMs same
  | backoffFactor => exact congrArg Backoff.factor same
  | backoffMaxMs => exact congrArg Backoff.maxMs same
  | _ => cases h

end Setting

end JobQueue
