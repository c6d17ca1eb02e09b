import JobQueue.Time.Instant

/-!
# Moving forward in time

Instants are moved forward by durations, one after the other. A leap second makes no exception: a
move that stays in it runs on in its fraction, and one that leaves it counts from the second before.

* `Instant.add?_eq_some_iff`: where a move forward ends.
* `Instant.add?_add`: two moves come to the same as one over the sum.
* `Instant.exists_add?_of_le` and `Instant.le_of_add?`: a shorter move ends in range if a longer one
  does, and not later.
* `Instant.after?_eq_add?`: no duration that leads to an instant is too long to be admitted.
* `Instant.exists_afterMs?_of_le`: so the same holds of durations in milliseconds.
-/

namespace JobQueue.Instant

variable {t u v w : Instant} {m n : Nat}

/-! ## Order -/

theorem le_iff : t ≤ u ↔ t.second < u.second ∨ (t.second = u.second ∧ t.nano ≤ u.nano) := by
  show ¬(u.second < t.second ∨ (u.second = t.second ∧ u.nano < t.nano)) ↔ _
  omega

theorem not_lt_of_le (h : t ≤ u) : ¬u < t := h

theorem le_trans (h : t ≤ u) (h' : u ≤ v) : t ≤ v := by
  rw [le_iff] at h h' ⊢
  omega

theorem lt_of_lt_of_le (h : t < u) (h' : u ≤ v) : t < v := by
  rw [le_iff] at h'
  change t.second < u.second ∨ (t.second = u.second ∧ t.nano < u.nano) at h
  show t.second < v.second ∨ (t.second = v.second ∧ t.nano < v.nano)
  omega

/-! ## Where a move ends -/

theorem ofParts?_eq_some_iff {second : Int} {nano : Nat} :
    ofParts? second nano = some u ↔ u.second = second ∧ u.nano = nano := by
  unfold ofParts?
  constructor
  · intro h
    split at h
    · cases h
      exact ⟨rfl, rfl⟩
    · cases h
  · rintro ⟨rfl, rfl⟩
    exact dif_pos ⟨u.first_le, u.le_last, u.nano_lt, u.leap⟩

theorem ofNanoseconds?_eq_some_iff {n : Int} :
    ofNanoseconds? n = some u ↔ u.nano < 1000000000 ∧ u.toNanoseconds = n := by
  rw [ofNanoseconds?, ofParts?_eq_some_iff, toNanoseconds]
  omega

/-- A move forward stays in a leap second, or leaves it, or begins outside of one. -/
theorem add?_eq_some_iff :
    t.add? n = some u ↔
      (1000000000 ≤ t.nano ∧ t.nano + n < 2000000000 ∧
        u.second = t.second ∧ u.nano = t.nano + n) ∨
      (1000000000 ≤ t.nano ∧ 2000000000 ≤ t.nano + n ∧ u.nano < 1000000000 ∧
        u.toNanoseconds = t.toNanoseconds - 1000000000 + n) ∨
      (t.nano < 1000000000 ∧ u.nano < 1000000000 ∧ u.toNanoseconds = t.toNanoseconds + n) := by
  have seconds : (n : Int).tdiv 1000000000 = (n / 1000000000 : Nat) := rfl
  have fraction : (n : Int).tmod 1000000000 = (n % 1000000000 : Nat) := rfl
  have small := t.nano_lt
  unfold add?
  rw [seconds, fraction]
  by_cases leap : 1000000000 ≤ t.nano
  · rw [if_neg (by omega)]
    dsimp only
    by_cases stays : t.nano + n < 2000000000
    · rw [if_neg (by omega), if_neg (by omega), ofParts?_eq_some_iff]
      omega
    · rw [if_pos (by omega), ofNanoseconds?_eq_some_iff]
      omega
  · rw [if_pos (by omega), ofNanoseconds?_eq_some_iff]
    omega

/-- Moving by nothing changes nothing. -/
theorem add?_zero (t : Instant) : t.add? (0 : Nat) = some t := by
  have small := t.nano_lt
  rw [add?_eq_some_iff]
  omega

/-- Two moves come to the same as one. -/
theorem add?_add (h : t.add? m = some u) : u.add? n = t.add? (m + n : Nat) := by
  ext v
  show u.add? n = some v ↔ t.add? (m + n : Nat) = some v
  have small := u.nano_lt
  rw [add?_eq_some_iff] at h ⊢
  rw [add?_eq_some_iff]
  unfold toNanoseconds at *
  -- the first move stays in a leap second, or leaves it, or begins outside of one
  rcases h with h | h | h
  · omega
  · omega
  · omega

/-- A shorter move is not later than a longer one. -/
theorem le_of_add? (h : t.add? m = some u) (h' : t.add? n = some v) (shorter : m ≤ n) : u ≤ v := by
  rw [add?_eq_some_iff] at h h'
  rw [le_iff]
  unfold toNanoseconds at *
  omega

/-- Between two instants there is one for every count of nanoseconds. -/
theorem exists_toNanoseconds_eq {k : Int} (after : t.second * 1000000000 ≤ k)
    (before : k ≤ v.toNanoseconds) (small : v.nano < 1000000000) :
    ∃ u : Instant, u.nano < 1000000000 ∧ u.toNanoseconds = k := by
  have first := t.first_le
  have last := v.le_last
  unfold toNanoseconds at before
  have low : firstSecond ≤ k / 1000000000 := by omega
  have high : k / 1000000000 ≤ lastSecond := by omega
  have nano : (k % 1000000000).toNat < 1000000000 := by omega
  refine ⟨⟨k / 1000000000, (k % 1000000000).toNat, low, high, by omega, by omega⟩, nano, ?_⟩
  show k / 1000000000 * 1000000000 + ((k % 1000000000).toNat : Int) = k
  omega

/-- A shorter move ends in range if a longer one does. -/
theorem exists_add?_of_le (h : t.add? n = some v) (shorter : m ≤ n) : ∃ u, t.add? m = some u := by
  rw [add?_eq_some_iff] at h
  simp only [add?_eq_some_iff]
  by_cases stays : 1000000000 ≤ t.nano ∧ t.nano + m < 2000000000
  · exact ⟨⟨t.second, t.nano + m, t.first_le, t.le_last, stays.2, fun _ => t.leap stays.1⟩,
      .inl ⟨stays.1, stays.2, rfl, rfl⟩⟩
  · have small : v.nano < 1000000000 := by omega
    unfold toNanoseconds at h
    rcases Nat.lt_or_ge t.nano 1000000000 with plain | leap
    · obtain ⟨u, within, count⟩ := exists_toNanoseconds_eq (t := t)
        (k := t.toNanoseconds + m) (by unfold toNanoseconds; omega)
        (by unfold toNanoseconds; omega) small
      exact ⟨u, by omega⟩
    · obtain ⟨u, within, count⟩ := exists_toNanoseconds_eq (t := t)
        (k := t.toNanoseconds - 1000000000 + m) (by unfold toNanoseconds; omega)
        (by unfold toNanoseconds; omega) small
      exact ⟨u, by omega⟩

/-- The durations that lead to instants are admitted. -/
theorem after?_eq_add? (t : Instant) (n : Nat) : t.after? n = t.add? n := by
  unfold after?
  split
  · rfl
  · rename_i long
    cases h : t.add? n with
    | none => rfl
    | some u =>
      have limit : spanLimit = 9223372036854775807000000 := by decide
      have first := t.first_le
      have last := u.le_last
      have low : firstSecond = -8334601228800 := by decide
      have high : lastSecond = 8210266876799 := by decide
      rw [add?_eq_some_iff] at h
      unfold toNanoseconds at h
      omega

/-- A move that is not longer than two others in a row ends in range, and not later than these. -/
theorem exists_afterMs?_of_le {k : Nat} (h : t.afterMs? m = some u) (h' : u.afterMs? n = some v)
    (shorter : k ≤ m + n) : ∃ w, t.afterMs? k = some w ∧ w ≤ v := by
  have total : k * 1000000 ≤ m * 1000000 + n * 1000000 := by omega
  rw [afterMs?, after?_eq_add?] at h h'
  rw [add?_add h] at h'
  obtain ⟨w, hw⟩ := exists_add?_of_le h' total
  exact ⟨w, (after?_eq_add? t _).trans hw, le_of_add? hw h' total⟩

end JobQueue.Instant
