import JobQueue.Time.Calendar
import JobQueue.Word

/-!
# Instants

An instant is a second, counted from 1970-01-01T00:00:00Z without leap seconds, and a fraction in
nanoseconds. A leap second is counted as part of the second before it: its fraction is a full second
or more, and it can only follow a second `:59`.

Instants reach from the year -262143 to the year 262142. Arithmetic that leaves this range has no
result.

* `Instant.ofParts?` makes an instant from its parts.
* `Instant.add?` moves an instant by a number of nanoseconds; `Instant.ofMilliseconds?` counts from
  the epoch.
* `spanLimit` bounds the durations that are ever added: longer ones have no meaning.
-/

namespace JobQueue

open Time (Date)

/-- The first second that instants reach. -/
def Instant.firstSecond : Int := Date.toDays ⟨-262143, 1, 1⟩ * 86400

/-- The last second that instants reach. -/
def Instant.lastSecond : Int := Date.toDays ⟨262142, 12, 31⟩ * 86400 + 86399

/-- An instant in the range of the calendar. -/
structure Instant where
  /-- Seconds since 1970-01-01T00:00:00Z. -/
  second : Int
  /-- Nanoseconds within the second; a thousand million or more within a leap second. -/
  nano : Nat
  first_le : Instant.firstSecond ≤ second
  le_last : second ≤ Instant.lastSecond
  nano_lt : nano < 2000000000
  leap : 1000000000 ≤ nano → second % 60 = 59
  deriving DecidableEq

namespace Instant

/-- The instant with these parts, if there is one. -/
def ofParts? (second : Int) (nano : Nat) : Option Instant :=
  if h : firstSecond ≤ second ∧ second ≤ lastSecond ∧ nano < 2000000000 ∧
      (1000000000 ≤ nano → second % 60 = 59) then
    some ⟨second, nano, h.1, h.2.1, h.2.2.1, h.2.2.2⟩
  else none

/-- 1970-01-01T00:00:00Z. -/
def epoch : Instant := ⟨0, 0, by decide, by decide, by decide, by decide⟩

/-- The last instant. -/
def last : Instant := ⟨lastSecond, 999999999, by decide, by decide, by decide, by decide⟩

instance : Inhabited Instant := ⟨epoch⟩

/-! ## Order -/

/-- An instant comes before another one by its second, and within a second by its fraction. -/
def Before (a b : Instant) : Prop := a.second < b.second ∨ (a.second = b.second ∧ a.nano < b.nano)

instance : LT Instant := ⟨Before⟩

instance : LE Instant := ⟨fun a b => ¬ Before b a⟩

instance (a b : Instant) : Decidable (a < b) :=
  inferInstanceAs (Decidable (a.second < b.second ∨ (a.second = b.second ∧ a.nano < b.nano)))

instance (a b : Instant) : Decidable (a ≤ b) := inferInstanceAs (Decidable (¬ (b < a)))

/-! ## Arithmetic -/

/-- The instant a whole number of nanoseconds after the epoch, if it is in range. -/
def ofNanoseconds? (n : Int) : Option Instant :=
  ofParts? (n / 1000000000) (n % 1000000000).toNat

/-- The instant a whole number of milliseconds after the epoch, if it is in range. -/
def ofMilliseconds? (n : Int) : Option Instant := ofNanoseconds? (n * 1000000)

/-- Nanoseconds since the epoch, leap seconds running on from the second before. -/
def toNanoseconds (t : Instant) : Int := t.second * 1000000000 + t.nano

/-- The instant `n` nanoseconds later, or earlier for a negative `n`. Within a leap second a move
that stays in it, or goes back by less than a second, keeps the second; a move out of it counts
from the second before when it goes forward and from the second after when it goes back. -/
def add? (t : Instant) (n : Int) : Option Instant :=
  if t.nano < 1000000000 then ofNanoseconds? (t.toNanoseconds + n)
  else
    let seconds := n.tdiv 1000000000
    let fraction := n.tmod 1000000000
    if 0 < seconds ∨ (0 < fraction ∧ 2000000000 ≤ t.nano + fraction) then
      ofNanoseconds? (t.toNanoseconds - 1000000000 + n)
    else if seconds < 0 then ofNanoseconds? (t.toNanoseconds + n)
    else ofParts? t.second (t.nano + fraction).toNat

/-- The longest duration, in nanoseconds: the milliseconds of a duration fit 63 bits. -/
def spanLimit : Int := Word.largest 63 * 1000000

/-- The instant after a duration in nanoseconds, if the duration is admitted and the result is in
range. -/
def after? (t : Instant) (nanoseconds : Nat) : Option Instant :=
  if (nanoseconds : Int) ≤ spanLimit then t.add? nanoseconds else none

/-- The instant after a duration in milliseconds. -/
def afterMs? (t : Instant) (milliseconds : Nat) : Option Instant :=
  t.after? (milliseconds * 1000000)

/-- The instant some days ago. -/
def daysBefore? (t : Instant) (days : Nat) : Option Instant :=
  if days * 86400 ≤ Word.largest 63 / 1000 then t.add? (-(days * 86400 * 1000000000 : Int))
  else none

end Instant

end JobQueue
