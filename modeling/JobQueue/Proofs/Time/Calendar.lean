import JobQueue.Time.Calendar
import Mathlib.Tactic.IntervalCases

/-!
# The calendar, read and written

Days are counted in cycles of 400 years, centuries, spans of four years, and years, each of which
begins in March. The last century of a cycle, the last span but that of the last century, and the
last year of a span are a day longer or shorter than the others, which the two directions of the
count have to agree on.

* `Place`: where in the cycle a day lies. `exists_place` finds the place of every day.
* `Place.date` and `ofDays_eq_date`: the date of a day by its place.
* `toDays_ofDays` and `valid_ofDays`: the date of a day exists, and is counted as this day.
* `le_year_ofDays_iff`: which days lie in a year or behind it.
-/

namespace JobQueue.Time.Date

/-! ## Places in a cycle -/

/-- Where a day lies: in which cycle, and in which century, span of four years, year and day of the
year there, counted from March. -/
structure Place where
  cycles : Int
  century : Int
  span : Int
  year : Int
  day : Int
  century_bound : 0 ≤ century ∧ century ≤ 3
  span_bound : 0 ≤ span ∧ span ≤ 24
  year_bound : 0 ≤ year ∧ year ≤ 3
  day_bound : 0 ≤ day ∧ day ≤ 365
  /-- Only the last year of a span has a leap day, and that of the last span of a century only if
  the century is the last one. -/
  leap : day = 365 → year = 3 ∧ (span = 24 → century = 3)

namespace Place

variable (p : Place)

/-- The day of the cycle. -/
def dayOfCycle : Int := 36524 * p.century + 1461 * p.span + 365 * p.year + p.day

/-- The year of the cycle. -/
def yearOfCycle : Int := 100 * p.century + 4 * p.span + p.year

/-- The month, counted from March. -/
def month : Int := (5 * p.day + 2) / 153

/-- The day of the month, counted from 0. -/
def dayOfMonth : Int := p.day - (153 * p.month + 2) / 5

/-- The year of the calendar, which begins in January. -/
def calendarYear : Int := 400 * p.cycles + p.yearOfCycle + if p.month < 10 then 0 else 1

theorem dayOfCycle_bound : 0 ≤ p.dayOfCycle ∧ p.dayOfCycle < 146097 := by
  obtain ⟨_, q, s, y, d, hq, hs, hy, hd, leap⟩ := p
  simp only [dayOfCycle]
  omega

theorem yearOfCycle_bound : 0 ≤ p.yearOfCycle ∧ p.yearOfCycle < 400 := by
  obtain ⟨_, q, s, y, d, hq, hs, hy, hd, leap⟩ := p
  simp only [yearOfCycle]
  omega

/-- The years before a year of the cycle, with their leap days. -/
theorem days_before_year :
    365 * p.yearOfCycle + p.yearOfCycle / 4 - p.yearOfCycle / 100 = p.dayOfCycle - p.day := by
  obtain ⟨_, q, s, y, d, hq, hs, hy, hd, leap⟩ := p
  simp only [yearOfCycle, dayOfCycle]
  omega

/-- The year of a day of the cycle. Taking one day from every 1460 takes away the leap days, but for
those that the centuries have not. -/
theorem year_of_day :
    (p.dayOfCycle - p.dayOfCycle / 1460 + p.dayOfCycle / 36524 - p.dayOfCycle / 146096) / 365 =
      p.yearOfCycle := by
  obtain ⟨_, q, s, y, d, hq, hs, hy, hd, leap⟩ := p
  simp only [yearOfCycle, dayOfCycle]
  generalize hn : 36524 * q + 1461 * s + 365 * y + d = n
  -- the last day of the cycle counts as one of a fifth century
  have centuries : n / 36524 - n / 146096 = q := by
    by_cases last : n = 146096
    · omega
    · have within : n < 36524 * (q + 1) := by omega
      have century : n / 36524 = q := by omega
      have cycle : n / 146096 = 0 := by omega
      omega
  omega

theorem month_bound : 0 ≤ p.month ∧ p.month ≤ 11 := by
  have bound := p.day_bound
  unfold month
  omega

/-- A day lies in its month. -/
theorem dayOfMonth_bound :
    0 ≤ p.dayOfMonth ∧ p.dayOfMonth < (153 * (p.month + 1) + 2) / 5 - (153 * p.month + 2) / 5 := by
  have bound := p.day_bound
  unfold dayOfMonth month
  omega

/-- The leap day is the last one of February in a leap year of the calendar. -/
theorem isLeapYear_of_day (leapDay : p.day = 365) : isLeapYear p.calendarYear = true := by
  obtain ⟨year, century⟩ := p.leap leapDay
  have february : ¬p.month < 10 := by
    rw [month, leapDay]
    decide
  have bounds := And.intro p.century_bound p.span_bound
  have inJanuary : p.calendarYear = 400 * p.cycles + 100 * p.century + 4 * (p.span + 1) := by
    rw [calendarYear, if_neg february, yearOfCycle]
    omega
  have byFour : p.calendarYear % 4 = 0 := by omega
  have byHundred : p.calendarYear % 100 = 0 → p.calendarYear % 400 = 0 := by omega
  by_cases h : p.calendarYear % 100 = 0
  · simp [isLeapYear, byFour, byHundred h]
  · simp [isLeapYear, byFour, h]

end Place

/-- Every day has a place. -/
theorem exists_place (days : Int) :
    ∃ p : Place, p.cycles * cycle + p.dayOfCycle = days + epoch := by
  have bound : 0 ≤ (days + epoch) % cycle ∧ (days + epoch) % cycle < 146097 := by
    unfold cycle
    omega
  generalize hn : (days + epoch) % cycle = n at bound
  -- the last day of the cycle belongs to the last century, and so on down
  let century := min (n / 36524) 3
  let ofCentury := n - 36524 * century
  let span := ofCentury / 1461
  let ofSpan := ofCentury % 1461
  let year := min (ofSpan / 365) 3
  let cycles := (days + epoch) / cycle
  refine ⟨⟨cycles, century, span, year, ofSpan - 365 * year, ?_, ?_, ?_, ?_, ?_⟩, ?_⟩
  case refine_6 =>
    have parts := Int.ediv_mul_add_emod (days + epoch) cycle
    simp only [Place.dayOfCycle, ofSpan, span, cycles]
    omega
  all_goals
    simp only [century, ofCentury, span, ofSpan, year]
    omega

/-! ## Dates -/

/-- The date of a place. -/
def Place.date (p : Place) : Date where
  year := p.calendarYear
  month := (if p.month < 10 then p.month + 3 else p.month - 9).toNat
  day := (p.dayOfMonth + 1).toNat

/-- The date of a day is that of its place. -/
theorem ofDays_eq_date {days : Int} {p : Place}
    (at_place : p.cycles * cycle + p.dayOfCycle = days + epoch) : ofDays days = p.date := by
  have bound := p.dayOfCycle_bound
  have cycles : (days + epoch) / cycle = p.cycles := by
    rw [← at_place]
    unfold cycle
    omega
  have day : (days + epoch) % cycle = p.dayOfCycle := by
    rw [← at_place]
    unfold cycle
    omega
  have dayOfYear : p.dayOfCycle -
      (365 * p.yearOfCycle + p.yearOfCycle / 4 - p.yearOfCycle / 100) = p.day := by
    rw [p.days_before_year]
    omega
  have months := p.month_bound
  simp only [ofDays, cycles, day, p.year_of_day, dayOfYear]
  rw [← Place.month, ← Place.dayOfMonth, Place.date, Place.calendarYear, Date.mk.injEq]
  refine ⟨?_, rfl, rfl⟩
  split <;> split at * <;> omega

/-- A date is counted as the day that it is the date of. -/
theorem toDays_ofDays (days : Int) : (ofDays days).toDays = days := by
  obtain ⟨p, at_place⟩ := exists_place days
  have months := p.month_bound
  have dayOfMonth := p.dayOfMonth_bound.1
  have years := p.yearOfCycle_bound
  have monthFromMarch : ((p.date.month : Int) + 9) % 12 = p.month := by
    unfold Place.date
    dsimp only
    split <;> omega
  have year : (if p.date.month ≤ 2 then p.date.year - 1 else p.date.year) =
      400 * p.cycles + p.yearOfCycle := by
    unfold Place.date Place.calendarYear
    dsimp only
    split <;> split at * <;> omega
  have yearOfCycle : (400 * p.cycles + p.yearOfCycle) % 400 = p.yearOfCycle := by omega
  have cycles : (400 * p.cycles + p.yearOfCycle) / 400 = p.cycles := by omega
  have dayOfYear : (153 * p.month + 2) / 5 + (p.date.day : Int) - 1 = p.day := by
    have day : (p.date.day : Int) = p.dayOfMonth + 1 := Int.toNat_of_nonneg (by omega)
    rw [day, Place.dayOfMonth]
    omega
  have before := p.days_before_year
  rw [ofDays_eq_date at_place, toDays]
  simp only [year, yearOfCycle, cycles, monthFromMarch, dayOfYear]
  omega

/-- A month has a day for each place in it. -/
theorem Place.day_le (p : Place) : p.date.day ≤ daysInMonth p.date.year p.date.month := by
  obtain ⟨first, last⟩ := p.month_bound
  have within := p.dayOfMonth_bound
  have inYear := p.day_bound
  have day : p.dayOfMonth = p.day - (153 * p.month + 2) / 5 := rfl
  have year : p.date.year = p.calendarYear := rfl
  -- a year without a leap day ends a day before
  have leapYear : isLeapYear p.calendarYear = false → p.day ≤ 364 := by
    intro common
    by_contra leapDay
    have leap := p.isLeapYear_of_day (by omega)
    rw [common] at leap
    cases leap
  rw [year]
  unfold Place.date
  dsimp only
  generalize p.month = month at first last within day ⊢
  cases leap : isLeapYear p.calendarYear with
  | false =>
    have short := leapYear leap
    simp only [daysInMonth, leap]
    interval_cases month <;> simp <;> omega
  | true =>
    simp only [daysInMonth, leap]
    interval_cases month <;> simp <;> omega

/-- The date of a day exists. -/
theorem valid_ofDays (days : Int) : (ofDays days).valid = true := by
  obtain ⟨p, at_place⟩ := exists_place days
  have months := p.month_bound
  have dayOfMonth := p.dayOfMonth_bound.1
  have month : 1 ≤ p.date.month ∧ p.date.month ≤ 12 := by
    unfold Place.date
    dsimp only
    split <;> omega
  have day : 1 ≤ p.date.day := by
    unfold Place.date
    dsimp only
    omega
  rw [ofDays_eq_date at_place, valid]
  simp [month, day, p.day_le]

/-- A date that exists has two digits for the month and for the day. -/
theorem bounds_of_valid {d : Date} (h : d.valid = true) : d.month ≤ 12 ∧ d.day ≤ 31 := by
  simp only [valid, Bool.and_eq_true, decide_eq_true_eq] at h
  obtain ⟨⟨⟨-, month⟩, -⟩, day⟩ := h
  refine ⟨month, Nat.le_trans day ?_⟩
  unfold daysInMonth
  split
  · split <;> decide
  · split <;> decide

/-! ## Years -/

/-- The first day of a year. -/
theorem toDays_newYear (year : Int) :
    toDays ⟨year, 1, 1⟩ =
      365 * (year - 1) + (year - 1) / 4 - (year - 1) / 100 + (year - 1) / 400 + 306 - epoch := by
  simp only [toDays, cycle]
  omega

/-- A day lies in a year or behind it exactly when it does not come before its first day. -/
theorem le_year_ofDays_iff {days year : Int} :
    year ≤ (ofDays days).year ↔ toDays ⟨year, 1, 1⟩ ≤ days := by
  obtain ⟨p, at_place⟩ := exists_place days
  have inYear := p.day_bound
  have centuries := p.century_bound
  have spans := p.span_bound
  have years := p.year_bound
  -- the leap days, year by year and not cycle by cycle
  have counted : ∀ marchYear, 400 * p.cycles + p.yearOfCycle = marchYear → days + epoch =
      365 * marchYear + marchYear / 4 - marchYear / 100 + marchYear / 400 + p.day := by
    rintro _ rfl
    rw [← at_place]
    simp only [Place.dayOfCycle, Place.yearOfCycle, cycle]
    omega
  have turn : p.month < 10 ↔ p.day < 306 := by
    unfold Place.month
    omega
  have calendarYear : (ofDays days).year =
      400 * p.cycles + p.yearOfCycle + if p.month < 10 then 0 else 1 := by
    rw [ofDays_eq_date at_place]
    rfl
  rw [calendarYear, toDays_newYear]
  generalize 400 * p.cycles + p.yearOfCycle = marchYear at counted
  have counted := counted marchYear rfl
  split <;> omega

end JobQueue.Time.Date
