import JobQueue.Proofs.Binary64.Power
import JobQueue.Proofs.Settings.Rules

/-!
# How long a retry waits

The delays of a policy are taken in doubles, capped there, and cut to whole milliseconds. This
module says what that comes to, for every policy and every number of attempts.

* `Backoff.delayFor_mono`: under valid settings, more attempts never wait less.
* `Backoff.delayFor_whole_iff`: with a whole factor and a maximum of at most `53` binary digits, the
  delay is the power of the factor times the base, or the maximum. It is not if the base is zero and
  the power is out of range: then the delay is the maximum.
* `Backoff.delayFor_le_maxMs_iff`: a delay passes the maximum when it is capped and the double next
  to the maximum lies above it, and never by more than `1024` milliseconds.
  `Backoff.delayFor_le_maxMs_of_short`: it never does if the maximum has at most `53` binary digits.
-/

namespace JobQueue

namespace Backoff

variable {policy : Backoff} {attempts m n : UInt32} {v : Nat}

/-! ## What a delay is cut from -/

/-- The largest delay as a double. -/
def cap (policy : Backoff) : Binary64 := Binary64.ofNat policy.maxMs.toNat

/-- The power of the factor. -/
def power (policy : Backoff) (attempts : UInt32) : Binary64 :=
  policy.factor.pow (Nat.min (attempts.toNat - 1) exponentLimit)

/-- The delay in whole milliseconds, for a double that it is cut from. -/
def wholeMs (x : Binary64) : Nat := x.truncate (Word.largest 64)

/-- The delay as a double. -/
def capped (policy : Backoff) (attempts : UInt32) : Binary64 :=
  if (policy.scaled attempts).isFinite then (policy.scaled attempts).min policy.cap else policy.cap

theorem scaled_eq (policy : Backoff) (attempts : UInt32) :
    policy.scaled attempts = (Binary64.ofNat policy.baseMs.toNat).mul (policy.power attempts) := rfl

theorem toNat_delayFor (claimed : attempts ≠ 0) :
    (policy.delayFor attempts).toNat = wholeMs (policy.capped attempts) := by
  have fits : wholeMs (policy.capped attempts) < 2 ^ 64 :=
    Nat.lt_of_le_of_lt (Binary64.truncate_le ..) (by decide)
  rw [delayFor, if_neg claimed]
  dsimp only
  rw [Binary64.truncate_max_zero, UInt64.toNat_ofNat', ← cap, ← capped, ← wholeMs,
    Nat.mod_eq_of_lt fits]

theorem delayFor_zero (policy : Backoff) : policy.delayFor 0 = 0 := by rw [delayFor, if_pos rfl]

theorem isFinite_cap (policy : Backoff) : policy.cap.isFinite = true :=
  Binary64.isFinite_ofNat policy.maxMs.toNat_lt.le

theorem not_nan_cap (policy : Backoff) : policy.cap.isNaN = false :=
  Binary64.not_nan_of_isFinite policy.isFinite_cap

/-- A delay that is finite and below the cap is cut to itself, and every other one to the cap. -/
theorem wholeMs_capped (policy : Backoff) (attempts : UInt32) :
    wholeMs (policy.capped attempts) =
      if (policy.scaled attempts).isFinite then
        Nat.min (wholeMs (policy.scaled attempts)) (wholeMs policy.cap)
      else wholeMs policy.cap := by
  unfold capped
  split
  · rename_i finite
    exact Binary64.truncate_min _ (Binary64.not_nan_of_isFinite finite) policy.not_nan_cap
  · rfl

/-! ## More attempts -/

theorem exponent_lt (attempts : UInt32) : Nat.min (attempts.toNat - 1) exponentLimit < 2 ^ 32 :=
  Nat.lt_of_le_of_lt ((Nat.min_le_left ..).trans (Nat.sub_le ..)) attempts.toNat_lt

section

variable (grows : Binary64.one.le policy.factor = true)

include grows

theorem one_le_power (attempts : UInt32) : Binary64.one.le (policy.power attempts) = true :=
  Binary64.one_le_pow grows _

/-- A factor from one on has powers that grow with the attempts. -/
theorem power_mono (h : m ≤ n) : (policy.power m).le (policy.power n) = true := by
  refine Binary64.pow_mono grows ?_ (exponent_lt n)
  exact min_le_min_right exponentLimit (Nat.sub_le_sub_right (UInt32.le_iff_toNat_le.mp h) 1)

/-- Before the cap, delays grow as long as they are finite, and are finite until they are not. -/
theorem scaled_mono (h : m ≤ n) (finite : (policy.scaled n).isFinite = true) :
    (policy.scaled m).isFinite = true ∧ (policy.scaled m).le (policy.scaled n) = true := by
  have powers := power_mono grows h
  have hm := one_le_power grows m
  have hn := one_le_power grows n
  rw [scaled_eq] at finite
  rw [scaled_eq, scaled_eq]
  rcases Nat.eq_zero_or_pos policy.baseMs.toNat with none | some
  · -- zero times a power that is out of range is not a number
    rw [none, Binary64.ofNat_zero] at finite ⊢
    rw [Binary64.zero_mul hn] at finite
    split at finite
    · rename_i inRange
      have inRange' := Binary64.isFinite_of_le hm powers inRange
      rw [Binary64.zero_mul hm, Binary64.zero_mul hn, if_pos inRange, if_pos inRange']
      exact ⟨finite, Binary64.le_refl (Binary64.not_nan_of_isFinite finite)⟩
    · cases finite
  · have one_le : Binary64.one.le (Binary64.ofNat policy.baseMs.toNat) = true :=
      Binary64.ofNat_mono some
    have same := Binary64.le_refl (Binary64.not_nan_of_le one_le).2
    have le := Binary64.mul_le_mul one_le same hm powers
    exact ⟨Binary64.isFinite_of_le (Binary64.one_le_mul one_le hm) le finite, le⟩

/-- The delays of a factor from one on grow with the attempts. -/
theorem delayFor_mono_of_one_le (h : m ≤ n) : policy.delayFor m ≤ policy.delayFor n := by
  rw [UInt64.le_iff_toNat_le]
  by_cases hm : m = 0
  · rw [hm, delayFor_zero]
    exact Nat.zero_le _
  · have hn : n ≠ 0 := by
      rintro rfl
      exact hm (UInt32.le_zero_iff.mp h)
    rw [toNat_delayFor hm, toNat_delayFor hn, wholeMs_capped, wholeMs_capped policy n]
    by_cases finite : (policy.scaled n).isFinite = true
    · obtain ⟨finite', le⟩ := scaled_mono grows h finite
      rw [if_pos finite, if_pos finite']
      exact min_le_min_right _ (Binary64.truncate_mono _ le)
    · rw [if_neg finite]
      split
      · exact Nat.min_le_right ..
      · exact le_rfl

end

theorem one_le_factor {s : Settings} (valid : s.validate = .ok ()) :
    Binary64.one.le s.backoff.factor = true := by
  have admitted := (Settings.validate_eq_ok_iff.mp valid).factor
  rw [Settings.factorAdmitted, Bool.and_eq_true] at admitted
  exact admitted.2

/-- **More attempts never wait less**, under all valid settings. -/
theorem delayFor_mono {s : Settings} (valid : s.validate = .ok ()) (h : m ≤ n) :
    s.backoff.delayFor m ≤ s.backoff.delayFor n :=
  delayFor_mono_of_one_le (one_le_factor valid) h

/-- The standard policy waits no less after forty attempts than after three. -/
theorem delayFor_mono_standard :
    Settings.standard.backoff.delayFor 3 ≤ Settings.standard.backoff.delayFor 40 :=
  delayFor_mono (by decide +kernel) (by decide)

/-! ## Whole factors -/

/-- A maximum of at most `53` binary digits is a double. -/
theorem wholeMs_cap (short : policy.maxMs.toNat ≤ 2 ^ 53) :
    wholeMs policy.cap = policy.maxMs.toNat := by
  have fits : policy.maxMs.toNat ≤ Word.largest 64 := Nat.le_of_lt_succ policy.maxMs.toNat_lt
  rw [wholeMs, cap, Binary64.truncate_ofNat _ short, Nat.min_eq_left fits]

/-- A delay that is a whole number as far as doubles go is that number or the maximum. -/
theorem wholeMs_capped_of_tracks (short : policy.maxMs.toNat ≤ 2 ^ 53)
    (tracks : (policy.scaled attempts).Tracks v) :
    wholeMs (policy.capped attempts) = Nat.min v policy.maxMs.toNat := by
  have fits : policy.maxMs.toNat ≤ Word.largest 64 := Nat.le_of_lt_succ policy.maxMs.toNat_lt
  rw [wholeMs_capped, wholeMs_cap short]
  by_cases few : v ≤ 2 ^ 53
  · have finite : (policy.scaled attempts).isFinite = true := by
      rw [tracks.eq few]
      exact Binary64.isFinite_ofNat (few.trans (Nat.pow_le_pow_right (by decide) (by decide)))
    rw [if_pos finite, wholeMs, tracks.eq few, Binary64.truncate_ofNat _ few]
    show Min.min (Min.min v _) _ = Min.min v _
    rw [Nat.min_assoc, Nat.min_eq_right fits]
  · -- what is past the digits is past the maximum
    have past : policy.maxMs.toNat ≤ wholeMs (policy.scaled attempts) := by
      have le := Binary64.truncate_mono (Word.largest 64) (tracks.le (short.trans (by omega)) short)
      rwa [Binary64.truncate_ofNat _ short, Nat.min_eq_left fits] at le
    have reached : Nat.min v policy.maxMs.toNat = policy.maxMs.toNat := Nat.min_eq_right (by omega)
    rw [reached]
    split
    · exact Nat.min_eq_right past
    · rfl

/-- An exponent beyond the limit makes no difference below the maximum. -/
theorem min_pow_exponentLimit {base k e top : Nat} (hbase : 0 < base) (hk : 0 < k)
    (small : top ≤ 2 ^ 53) :
    Nat.min (base * k ^ Nat.min e exponentLimit) top = Nat.min (base * k ^ e) top := by
  rcases Nat.le_total e exponentLimit with within | beyond
  · have same : Nat.min e exponentLimit = e := Nat.min_eq_left within
    rw [same]
  · have same : Nat.min e exponentLimit = exponentLimit := Nat.min_eq_right beyond
    rw [same]
    rcases Nat.lt_or_eq_of_le hk with more | rfl
    · have far {e : Nat} (he : exponentLimit ≤ e) : top ≤ base * k ^ e := by
        have long : 53 ≤ exponentLimit := by decide
        calc top ≤ 2 ^ 53 := small
          _ ≤ 2 ^ e := Nat.pow_le_pow_right (by decide) (long.trans he)
          _ ≤ k ^ e := Nat.pow_le_pow_left more e
          _ ≤ base * k ^ e := Nat.le_mul_of_pos_left _ hbase
      exact (Nat.min_eq_right (far le_rfl)).trans (Nat.min_eq_right (far beyond)).symm
    · rw [Nat.one_pow, Nat.one_pow]

/-- The power of a whole factor with the base, or the maximum. -/
def wholeDelay (policy : Backoff) (k : Nat) (attempts : UInt32) : Nat :=
  Nat.min (policy.baseMs.toNat * k ^ (attempts.toNat - 1)) policy.maxMs.toNat

/-- With a base from one on, the power of a whole factor is what is cut from. -/
theorem delayFor_whole_of_pos {k : Nat} (grows : Binary64.one.le policy.factor = true)
    (whole : policy.factor.IsWhole k) (short : policy.maxMs.toNat ≤ 2 ^ 53)
    (le : policy.baseMs ≤ policy.maxMs) (some : 0 < policy.baseMs.toNat) (claimed : attempts ≠ 0) :
    (policy.delayFor attempts).toNat = policy.wholeDelay k attempts := by
  have pos := whole.pos grows
  have base := Binary64.tracks_ofNat ((UInt64.le_iff_toNat_le.mp le).trans short)
  have power := whole.tracks.pow pos (exponent_lt attempts)
  have tracks := base.mul power some (Nat.pow_pos pos)
  rw [toNat_delayFor claimed, wholeMs_capped_of_tracks short tracks,
    min_pow_exponentLimit some pos short, wholeDelay]

/-- With a base of zero, a power that is out of range makes the delay the maximum. -/
theorem delayFor_of_no_base (grows : Binary64.one.le policy.factor = true)
    (short : policy.maxMs.toNat ≤ 2 ^ 53) (none : policy.baseMs.toNat = 0) (claimed : attempts ≠ 0) :
    (policy.delayFor attempts).toNat =
      if (policy.power attempts).isFinite then 0 else policy.maxMs.toNat := by
  have scaled : policy.scaled attempts =
      if (policy.power attempts).isFinite then Binary64.zero else Binary64.nan := by
    rw [scaled_eq, none, Binary64.ofNat_zero, Binary64.zero_mul (one_le_power grows attempts)]
  rw [toNat_delayFor claimed]
  split at scaled
  · rename_i inRange
    have tracks : (policy.scaled attempts).Tracks 0 := by
      rw [scaled, ← Binary64.ofNat_zero]
      exact Binary64.tracks_ofNat (Nat.zero_le _)
    rw [wholeMs_capped_of_tracks short tracks, if_pos inRange]
    exact Nat.zero_min _
  · rename_i outOfRange
    rw [wholeMs_capped, scaled, if_neg outOfRange, wholeMs_cap short]
    rfl

/-- **Whole factors.** Take valid settings with a whole factor, and a maximum of at most `53` binary
digits. After any attempt the delay is the power of the factor times the base, or the maximum if
that is less, computed in whole numbers. The one exception is a base of zero with a power that is
out of the range of doubles: then the delay is the maximum. -/
theorem delayFor_whole_iff {s : Settings} (valid : s.validate = .ok ()) {k : Nat}
    (whole : s.backoff.factor.IsWhole k) (short : s.backoff.maxMs.toNat ≤ 2 ^ 53)
    (claimed : 1 ≤ attempts) :
    ((s.backoff.delayFor attempts).toNat = s.backoff.wholeDelay k attempts ↔
      s.backoff.baseMs ≠ 0 ∨ s.backoff.maxMs = 0 ∨ (s.backoff.power attempts).isFinite = true) ∧
    ((s.backoff.delayFor attempts).toNat = s.backoff.wholeDelay k attempts ∨
      s.backoff.delayFor attempts = s.backoff.maxMs) := by
  have grows := one_le_factor valid
  have le := (Settings.validate_eq_ok_iff.mp valid).base_le
  have claimed : attempts ≠ 0 := by
    rintro rfl
    exact absurd claimed (by decide)
  rcases Nat.eq_zero_or_pos s.backoff.baseMs.toNat with none | some
  · have zero : s.backoff.baseMs = 0 := UInt64.toNat_inj.mp none
    have expected : s.backoff.wholeDelay k attempts = 0 := by
      rw [wholeDelay, none, Nat.zero_mul]
      exact Nat.zero_min _
    have delay := delayFor_of_no_base grows short none claimed
    rw [expected]
    split at delay
    · rename_i inRange
      exact ⟨iff_of_true delay (.inr (.inr inRange)), .inl delay⟩
    · rename_i outOfRange
      refine ⟨?_, .inr (UInt64.toNat_inj.mp delay)⟩
      rw [delay]
      constructor
      · intro same
        exact .inr (.inl (UInt64.toNat_inj.mp same))
      · rintro (given | same | inRange)
        · exact absurd zero given
        · rw [same]
          rfl
        · exact absurd inRange outOfRange
  · have delay := delayFor_whole_of_pos grows whole short le some claimed
    refine ⟨iff_of_true delay (.inl ?_), .inl delay⟩
    intro zero
    rw [zero] at some
    exact absurd some (by decide)

/-- Three attempts under the standard policy wait four seconds, and forty wait the maximum. -/
theorem delayFor_whole_iff_standard :
    (Settings.standard.backoff.delayFor 3).toNat = 4000 ∧
      (Settings.standard.backoff.delayFor 40).toNat = 300000 := by
  have two : Settings.standard.backoff.factor.IsWhole 2 := by
    simp only [Settings.standard, Backoff.standard]
    exact Binary64.isWhole_ofNat (by decide)
  have delay (attempts : UInt32) (claimed : 1 ≤ attempts) :=
    (delayFor_whole_iff (by decide +kernel) two (by decide) claimed).1.mpr (.inl (by decide))
  exact ⟨delay 3 (by decide), delay 40 (by decide)⟩

/-- With a base of zero, the first attempt whose power is out of range waits the maximum, although
zero times every power is zero. -/
theorem delayFor_no_base :
    let policy : Backoff := ⟨0, Binary64.ofNat 2, 5000⟩
    ({ Settings.standard with backoff := policy }).validate = .ok () ∧
      policy.factor.IsWhole 2 ∧ policy.maxMs.toNat ≤ 2 ^ 53 ∧
      policy.wholeDelay 2 1025 = 0 ∧ (policy.delayFor 1025).toNat = 5000 := by
  dsimp only
  refine ⟨by decide +kernel, ?_, by decide, by decide +kernel, by decide +kernel⟩
  exact Binary64.isWhole_ofNat (by decide)

/-! ## The maximum -/

/-- No delay is longer than what the cap is cut to. -/
theorem wholeMs_capped_le (policy : Backoff) (attempts : UInt32) :
    wholeMs (policy.capped attempts) ≤ wholeMs policy.cap := by
  rw [wholeMs_capped]
  split
  · exact Nat.min_le_right ..
  · exact le_rfl

/-- A delay that is below the cap is not above the maximum, even if the cap is. -/
theorem wholeMs_scaled_le (finite : (policy.scaled attempts).isFinite = true)
    (below : policy.cap.le (policy.scaled attempts) = false) :
    wholeMs (policy.scaled attempts) ≤ policy.maxMs.toNat :=
  Binary64.truncate_le_of_not_le _ (Binary64.not_nan_of_isFinite finite) below

theorem wholeMs_cap_le (policy : Backoff) : wholeMs policy.cap ≤ policy.maxMs.toNat + 1024 :=
  Binary64.truncate_ofNat_le _ policy.maxMs.toNat_lt.le

/-- A maximum of at most `53` binary digits is never passed. -/
theorem delayFor_le_maxMs_of_short (short : policy.maxMs.toNat ≤ 2 ^ 53) (attempts : UInt32) :
    policy.delayFor attempts ≤ policy.maxMs := by
  by_cases claimed : attempts = 0
  · rw [claimed, delayFor_zero]
    exact UInt64.zero_le
  · rw [UInt64.le_iff_toNat_le, toNat_delayFor claimed, ← wholeMs_cap short]
    exact wholeMs_capped_le policy attempts

/-- **The maximum**, for every policy. A delay is at most the maximum unless it is capped and the
double nearest to the maximum is cut to more, and then it is at most `1024` milliseconds more. -/
theorem delayFor_le_maxMs_iff (policy : Backoff) (attempts : UInt32) :
    (policy.delayFor attempts ≤ policy.maxMs ↔
      attempts = 0 ∨ wholeMs policy.cap ≤ policy.maxMs.toNat ∨
        (policy.scaled attempts).isFinite = true ∧
          policy.cap.le (policy.scaled attempts) = false) ∧
    (policy.delayFor attempts).toNat ≤ policy.maxMs.toNat + 1024 := by
  by_cases claimed : attempts = 0
  · rw [claimed, delayFor_zero]
    exact ⟨iff_of_true UInt64.zero_le (.inl rfl), Nat.zero_le _⟩
  · have capped := wholeMs_capped_le policy attempts
    rw [UInt64.le_iff_toNat_le, toNat_delayFor claimed, or_iff_right claimed]
    refine ⟨⟨?_, ?_⟩, capped.trans policy.wholeMs_cap_le⟩
    · -- if the cap is cut to more than the maximum, then the delay is not cut from the cap
      intro within
      by_cases enough : wholeMs policy.cap ≤ policy.maxMs.toNat
      · exact .inl enough
      · right
        rw [wholeMs_capped] at within
        split at within
        · rename_i finite
          refine ⟨finite, Bool.eq_false_iff.mpr ?_⟩
          intro reached
          have le : wholeMs policy.cap ≤ wholeMs (policy.scaled attempts) :=
            Binary64.truncate_mono _ reached
          have least : Nat.min (wholeMs (policy.scaled attempts)) (wholeMs policy.cap) =
              wholeMs policy.cap := Nat.min_eq_right le
          exact enough (least ▸ within)
        · exact absurd within enough
    · rintro (within | ⟨finite, below⟩)
      · exact capped.trans within
      · rw [wholeMs_capped, if_pos finite]
        exact (Nat.min_le_left ..).trans (wholeMs_scaled_le finite below)

/-- A maximum that is no double can be passed by a millisecond, on the first attempt. -/
theorem delayFor_past_maxMs :
    let policy : Backoff := ⟨9007199254740995, Binary64.ofNat 2, 9007199254740995⟩
    policy.delayFor 1 = 9007199254740996 ∧ ¬policy.delayFor 1 ≤ policy.maxMs := by
  decide +kernel

end Backoff

end JobQueue
