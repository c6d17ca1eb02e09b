import JobQueue.DeadLetter.Queue
import JobQueue.Proofs.Program.Alone
import JobQueue.Proofs.Store.ClaimOrder
import JobQueue.Proofs.Time.Forward

/-!
# Pruning

Pruning removes the records that are older than they are kept. How old they may be is counted in
days before the time of the pruning, and that may lead to before the first instant there is; then no
record is older.

* `Instant.daysBack`: the time so many days before an instant, on a line of seconds without ends.
  Where `Instant.daysBefore?` finds an instant it is the one on the line
  (`Instant.key_of_daysBefore?`), and where it finds none every instant is later
  (`Instant.daysBack_lt_key`).
* `DeadLetter.IsOlder` and `Store.withoutOlder`: the records that are to go, and the store without
  them.
* `DeadLetterQueue.prune_removes_older`: pruning leaves that store.
-/

namespace JobQueue

/-! ## Days back -/

namespace Instant

variable {t u : Instant} {days m n : Nat}

/-- The time so many days before an instant, as a second and a fraction, on a line of seconds
without ends. Whoever goes back from a leap second starts in the second behind it. -/
def daysBack (t : Instant) (days : Nat) : ℤ ×ₗ ℕ :=
  if days = 0 then t.key
  else toLex (t.second + (t.nano / 1000000000 : Nat) - days * 86400, t.nano % 1000000000)

/-- To go back by days is to leave a leap second, unless there are none to go. -/
theorem add?_days (t : Instant) (days : Nat) :
    t.add? (-(days * 86400 * 1000000000 : Int)) =
      if days = 0 then some t
      else ofNanoseconds? (t.toNanoseconds - days * 86400 * 1000000000) := by
  have whole : -(days * 86400 * 1000000000 : Int) = (-(days * 86400) : Int) * 1000000000 := by omega
  have seconds : (-(days * 86400 * 1000000000 : Int)).tdiv 1000000000 = -(days * 86400) := by
    rw [whole, Int.mul_tdiv_cancel _ (by decide)]
  have fraction : (-(days * 86400 * 1000000000 : Int)).tmod 1000000000 = 0 := by
    rw [whole, Int.mul_tmod_left]
  have small := t.nano_lt
  unfold add?
  rw [seconds, fraction]
  dsimp only
  split
  · split
    · rw [ofNanoseconds?_eq_some_iff]
      omega
    · rw [Int.sub_eq_add_neg]
  · rw [if_neg (by omega)]
    split
    · rw [if_neg (by omega), Int.sub_eq_add_neg]
    · rw [if_pos (by omega), ofParts?_eq_some_iff]
      omega

/-- Where days lead back to an instant, it is the one on the line. -/
theorem key_of_daysBefore? (h : t.daysBefore? days = some u) : u.key = t.daysBack days := by
  unfold daysBefore? at h
  split at h
  · rw [add?_days] at h
    unfold daysBack
    split at h
    · rename_i none
      rw [if_pos none, Option.some.inj h]
    · rename_i some
      rw [ofNanoseconds?_eq_some_iff, toNanoseconds, toNanoseconds] at h
      rw [if_neg some, key]
      congr 1
      ext
      · dsimp only
        omega
      · dsimp only
        omega
  · cases h

/-- Where days lead back to none, they lead to before every instant. -/
theorem daysBack_lt_key (h : t.daysBefore? days = none) (short : days < 2 ^ 32) (u : Instant) :
    t.daysBack days < u.key := by
  have first := u.first_le
  have last := t.le_last
  have admitted : days * 86400 ≤ Word.largest 63 / 1000 := by
    have : Word.largest 63 / 1000 = 9223372036854775 := by decide
    omega
  rw [daysBefore?, if_pos admitted, add?_days] at h
  unfold daysBack
  split at h
  · cases h
  · rename_i some
    rw [if_neg some, key, Prod.Lex.toLex_lt_toLex]
    left
    dsimp only
    -- otherwise the time on the line is one that an instant can have
    by_contra early
    have low : firstSecond ≤ (t.toNanoseconds - days * 86400 * 1000000000) / 1000000000 := by
      unfold toNanoseconds
      omega
    have high : (t.toNanoseconds - days * 86400 * 1000000000) / 1000000000 ≤ lastSecond := by
      have small := t.nano_lt
      unfold toNanoseconds
      omega
    rw [ofNanoseconds?, ofParts?, dif_pos ⟨low, high, by omega, by omega⟩] at h
    cases h

/-- More days lead further back. -/
theorem daysBack_antitone (h : m ≤ n) : t.daysBack n ≤ t.daysBack m := by
  have small := t.nano_lt
  unfold daysBack
  split
  · rw [if_pos (by omega)]
  · split
    · rw [key, Prod.Lex.toLex_le_toLex]
      left
      dsimp only
      omega
    · rw [Prod.Lex.toLex_le_toLex]
      dsimp only
      omega

/-- Outside of leap seconds the line is that of whole numbers of nanoseconds. -/
theorem key_lt_daysBack_iff (ht : t.nano < 1000000000) (hu : u.nano < 1000000000) :
    u.key < t.daysBack days ↔ u.toNanoseconds < t.toNanoseconds - days * 86400 * 1000000000 := by
  unfold daysBack toNanoseconds
  split
  · rw [key, key, Prod.Lex.toLex_lt_toLex]
    dsimp only
    omega
  · rw [key, Prod.Lex.toLex_lt_toLex]
    dsimp only
    omega

end Instant

/-! ## Older records -/

/-- The record was made more than so many days before a time. -/
def DeadLetter.IsOlder (now : Instant) (days : UInt32) (record : DeadLetter) : Prop :=
  record.movedAt.key < now.daysBack days.toNat

instance (now : Instant) (days : UInt32) : DecidablePred (DeadLetter.IsOlder now days) :=
  fun record => inferInstanceAs (Decidable (record.movedAt.key < now.daysBack days.toNat))

namespace Store

variable {s : Store} {now : Instant} {days more : UInt32}

/-- A store without the records that are older than so many days. -/
def withoutOlder (s : Store) (now : Instant) (days : UInt32) : Store :=
  { s with deadLetters := s.deadLetters.filter fun record => ¬record.IsOlder now days }

/-- How many records are older than so many days. -/
def countOlder (s : Store) (now : Instant) (days : UInt32) : Nat :=
  s.deadLetters.countP fun record => record.IsOlder now days

theorem deleteDeadLettersBefore_eq {cutoff : Instant}
    (back : now.daysBefore? days.toNat = some cutoff) :
    s.deleteDeadLettersBefore cutoff =
      (UInt64.ofNat (s.countOlder now days), s.withoutOlder now days) := by
  have same : (fun record : DeadLetter => decide (cutoff ≤ record.movedAt)) =
      fun record => decide (¬record.IsOlder now days) := by
    funext record
    refine decide_eq_decide.mpr (not_congr ?_)
    rw [DeadLetter.IsOlder, ← Instant.key_of_daysBefore? back, Instant.key_lt_key]
    rfl
  have kept : (s.withoutOlder now days).deadLetters.length =
      s.deadLetters.countP fun record => decide ¬decide (record.IsOlder now days) = true := by
    simp only [withoutOlder, ← List.countP_eq_length_filter, decide_eq_true_eq]
  have all := List.length_eq_countP_add_countP (fun record => decide (record.IsOlder now days))
    (l := s.deadLetters)
  rw [deleteDeadLettersBefore, same]
  refine congrArg (fun n => (UInt64.ofNat n, _)) ?_
  show s.deadLetters.length - (s.withoutOlder now days).deadLetters.length = _
  unfold countOlder
  omega

/-- What no record is older than leaves them all. -/
theorem withoutOlder_of_none (none : ∀ record ∈ s.deadLetters, ¬record.IsOlder now days) :
    s.withoutOlder now days = s ∧ s.countOlder now days = 0 := by
  constructor
  · rw [withoutOlder, List.filter_eq_self.mpr]
    intro record listed
    exact decide_eq_true (none record listed)
  · rw [countOlder, List.countP_eq_zero]
    intro record listed
    simpa using none record listed

theorem not_isOlder_of_mem_withoutOlder :
    ∀ record ∈ (s.withoutOlder now days).deadLetters, ¬record.IsOlder now days := by
  intro record listed
  exact of_decide_eq_true (List.mem_filter.mp listed).2

/-- The longer records are kept, the more of them stay. -/
theorem withoutOlder_sublist (h : days ≤ more) :
    (s.withoutOlder now days).deadLetters.Sublist (s.withoutOlder now more).deadLetters := by
  refine List.monotone_filter_right _ fun record young => ?_
  rw [decide_eq_true_eq] at young ⊢
  exact fun old => young (old.trans_le (Instant.daysBack_antitone (UInt32.le_iff_toNat_le.mp h)))

end Store

/-! ## The program -/

variable {handler : Type}

theorem Program.alone_reportPruned (removed : UInt64) (days : UInt32) (s : Store)
    (ahead : Nat → Surroundings) :
    (reportPruned removed days : Program handler Unit).alone s ahead =
      ((), s, fun n => ahead (n + 2)) := by
  rw [reportPruned]
  split <;> rfl

namespace DeadLetterQueue

/-- Pruning alone leaves the store without the older records, and answers how many these were. -/
theorem alone_prune (days : UInt32) (s : Store) (ahead : Nat → Surroundings) :
    ∃ n, (prune days : QueueProgram handler UInt64).run.alone s ahead =
      (.ok (UInt64.ofNat (s.countOlder (ahead 0).time days)), s.withoutOlder (ahead 0).time days,
        fun k => ahead (k + n)) := by
  rw [prune, QueueProgram.alone_bind, QueueProgram.alone_now]
  dsimp only
  cases back : (ahead 0).time.daysBefore? days.toNat with
  | none =>
    have young : ∀ record ∈ s.deadLetters, ¬record.IsOlder (ahead 0).time days := by
      intro record _
      exact (Instant.daysBack_lt_key back days.toNat_lt record.movedAt).asymm
    obtain ⟨store, count⟩ := Store.withoutOlder_of_none young
    rw [store, count]
    exact ⟨2, rfl⟩
  | some cutoff =>
    have asked (ahead : Nat → Surroundings) :
        (QueueProgram.call (.deleteDeadLettersBefore cutoff)).run.alone s ahead =
          (.ok (s.deleteDeadLettersBefore cutoff).1, (s.deleteDeadLettersBefore cutoff).2,
            fun k => ahead (k + 1)) :=
      @QueueProgram.alone_call handler s ahead (.deleteDeadLettersBefore cutoff)
    simp only [QueueProgram.alone_bind, QueueProgram.alone_within, asked,
      Store.deleteDeadLettersBefore_eq back, QueueProgram.alone_lift,
      Program.alone_reportPruned]
    exact ⟨6, rfl⟩

/-- **Pruning.** Whatever the records, the time and the days, pruning removes exactly the records
that were made more than so many days before, leaves everything else as it is, and answers how many
it removed, as a number of 64 bits. Outside of leap seconds "before" compares whole numbers of
nanoseconds, however far back the days lead. So every record that stays when records are kept for
some days stays when they are kept for more, and to prune again at the same time removes nothing. -/
theorem prune_removes_older (s : Store) (days : UInt32) (ahead : Nat → Surroundings) :
    let now := (ahead 0).time
    (∃ rest, (prune days : QueueProgram handler UInt64).run.alone s ahead =
      (.ok (UInt64.ofNat (s.countOlder now days)), s.withoutOlder now days, rest)) ∧
    (∀ record : DeadLetter, now.nano < 1000000000 → record.movedAt.nano < 1000000000 →
      (record.IsOlder now days ↔ record.movedAt.toNanoseconds <
        now.toNanoseconds - days.toNat * 86400 * 1000000000)) ∧
    (∀ more, days ≤ more →
      (s.withoutOlder now days).deadLetters.Sublist (s.withoutOlder now more).deadLetters) ∧
    ∀ later : Nat → Surroundings, (later 0).time = now → ∃ rest,
      (prune days : QueueProgram handler UInt64).run.alone (s.withoutOlder now days) later =
        (.ok 0, s.withoutOlder now days, rest) := by
  intro now
  refine ⟨?_, fun record => Instant.key_lt_daysBack_iff, fun more => Store.withoutOlder_sublist, ?_⟩
  · obtain ⟨n, pruned⟩ := @alone_prune handler days s ahead
    exact ⟨_, pruned⟩
  · intro later same
    obtain ⟨n, pruned⟩ := @alone_prune handler days (s.withoutOlder now days) later
    obtain ⟨store, count⟩ :=
      Store.withoutOlder_of_none (@Store.not_isOlder_of_mem_withoutOlder s now days)
    rw [same, store, count] at pruned
    exact ⟨_, pruned⟩

/-! ### An attic

One record is as old as it may be, one is older by a nanosecond, and one was made at the first
instant. The longest time to keep records leads to before that.
-/

namespace Attic

def start : Instant := (Instant.ofParts? Instant.firstSecond 0).getD .epoch

def edge : Instant := (Instant.ofParts? (-2592000) 0).getD .epoch

def past : Instant := (Instant.ofParts? (-2592001) 999999999).getD .epoch

def kept : DeadLetter := .ofJob (.ofNat 1) Store.Tray.letter edge

def old : List DeadLetter :=
  [.ofJob (.ofNat 2) Store.Tray.letter past, .ofJob (.ofNat 3) Store.Tray.letter start]

def store : Store := ⟨[], [], kept :: old⟩

def ahead : Nat → Surroundings := fun _ => ⟨.epoch, 0, .ofNat 0, .ok .null, false, none⟩

end Attic

theorem prune_removes_older_attic :
    (∃ rest, (prune 30 : QueueProgram Unit UInt64).run.alone Attic.store Attic.ahead =
      (.ok 2, ⟨[], [], [Attic.kept]⟩, rest)) ∧
    ∃ rest, (prune 4294967295 : QueueProgram Unit UInt64).run.alone Attic.store Attic.ahead =
      (.ok 0, Attic.store, rest) := by
  obtain ⟨⟨rest, month⟩, -⟩ := @prune_removes_older Unit Attic.store 30 Attic.ahead
  obtain ⟨⟨rest', longest⟩, -⟩ := @prune_removes_older Unit Attic.store 4294967295 Attic.ahead
  have count : UInt64.ofNat (Attic.store.countOlder (Attic.ahead 0).time 30) = 2 := by decide
  have after : Attic.store.withoutOlder (Attic.ahead 0).time 30 = ⟨[], [], [Attic.kept]⟩ := by
    decide
  have none : UInt64.ofNat (Attic.store.countOlder (Attic.ahead 0).time 4294967295) = 0 := by
    decide
  have all : Attic.store.withoutOlder (Attic.ahead 0).time 4294967295 = Attic.store := by decide
  exact ⟨⟨rest, by rw [month, count, after]⟩, rest', by rw [longest, none, all]⟩

end DeadLetterQueue

end JobQueue
