import JobQueue.Settings.Basic
import Mathlib.Order.Basic

/-!
# The rules of settings

Settings are valid when they satisfy every rule, whatever the order in which the rules are looked
at.

* `Settings.Sound` lists the rules, and `Settings.validate_eq_ok_iff` says that they are what is
  checked.
-/

namespace JobQueue.Settings

variable {s : Settings}

/-- Settings that satisfy every rule. -/
structure Sound (s : Settings) : Prop where
  concurrency : s.concurrency ≠ 0
  maxAttempts : s.defaultMaxAttempts ≠ 0
  timeout : s.visibilityTimeoutMs ≠ 0
  timeout_le : s.visibilityTimeoutMs ≤ maxVisibilityTimeoutMs
  heartbeat : s.heartbeatIntervalMs ≠ 0
  heartbeat_lt : s.heartbeatIntervalMs < s.visibilityTimeoutMs
  factor : factorAdmitted s.backoff.factor = true
  base_le : s.backoff.baseMs ≤ s.backoff.maxMs
  prune : s.dlqPruneIntervalMs ≠ 0
  named : Text.isAllBlank s.workerPrefix = false

theorem validate_eq_ok : s.validate = .ok () ↔ s.broken? = none := by
  unfold validate
  cases s.broken? <;> simp

theorem broken?_eq_none : s.broken? = none ↔ s.Sound := by
  constructor
  · intro unbroken
    unfold broken? at unbroken
    iterate 8 (split at unbroken; · cases unbroken)
    rename_i concurrency maxAttempts timeout heartbeat factor base prune named
    rw [not_or, UInt64.not_lt] at timeout
    rw [not_or, UInt64.not_le] at heartbeat
    exact ⟨concurrency, maxAttempts, timeout.1, timeout.2, heartbeat.1, heartbeat.2,
      by simpa using factor, UInt64.not_lt.mp base, prune, by simpa using named⟩
  · intro sound
    have timeout : ¬(s.visibilityTimeoutMs = 0 ∨ maxVisibilityTimeoutMs < s.visibilityTimeoutMs) :=
      not_or.mpr ⟨sound.timeout, UInt64.not_lt.mpr sound.timeout_le⟩
    have heartbeat :
        ¬(s.heartbeatIntervalMs = 0 ∨ s.visibilityTimeoutMs ≤ s.heartbeatIntervalMs) :=
      not_or.mpr ⟨sound.heartbeat, UInt64.not_le.mpr sound.heartbeat_lt⟩
    rw [broken?, if_neg sound.concurrency, if_neg sound.maxAttempts, if_neg timeout,
      if_neg heartbeat, if_neg (by simp [sound.factor]), if_neg (UInt64.not_lt.mpr sound.base_le),
      if_neg sound.prune, if_neg (by simp [sound.named])]

/-- **Settings are accepted when they satisfy every rule.** -/
theorem validate_eq_ok_iff : s.validate = .ok () ↔ s.Sound :=
  validate_eq_ok.trans broken?_eq_none

/-- The standard settings satisfy every rule. -/
theorem sound_standard : standard.Sound := broken?_eq_none.mp (by decide +kernel)

/-- Another prefix breaks no rule, if it holds more than blanks. -/
theorem Sound.withPrefix (h : s.Sound) {workerPrefix : String}
    (named : Text.isAllBlank workerPrefix = false) : ({ s with workerPrefix } : Settings).Sound where
  concurrency := h.concurrency
  maxAttempts := h.maxAttempts
  timeout := h.timeout
  timeout_le := h.timeout_le
  heartbeat := h.heartbeat
  heartbeat_lt := h.heartbeat_lt
  factor := h.factor
  base_le := h.base_le
  prune := h.prune
  named := named

end JobQueue.Settings
