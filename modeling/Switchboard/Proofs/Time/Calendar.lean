/-
**Every day has a date, and its number is found from it.**

Inside a cycle of 400 years that starts in March, `daysBefore` counts the days before a year. Every day of the
cycle is so many days after the start of one of its years, 365 days only before a leap day.

* `yearOfCycle_spec` — the year of a day in its cycle.
* `monthDay_spec` — the month and the day of the month of a day in its year.
* `Date.dayNumber_ofDayNumber` — **the number of a date is the number that the date was made of.**
* `Date.exists_ofDayNumber` — **the date of every day is in the calendar.**
-/

import Mathlib.Tactic.IntervalCases
import Switchboard.Time.Calendar

namespace Switchboard.Time

/-! ### Years of a cycle -/

/-- The days of a cycle before one of its years. -/
def daysBefore (year : Nat) : Nat := 365 * year + year / 4 - year / 100

/-- The year of a day in its cycle. -/
def yearOfCycle (day : Nat) : Nat := (day - day / 1460 + day / 36524 - day / 146096) / 365

/-- A day is so many centuries, spans of four years, years and days after the start of its cycle. -/
theorem day_parts {day : Nat} (inside : day < 146097) :
    ∃ century span year rest, day = 36524 * century + 1461 * span + 365 * year + rest ∧ century ≤ 3 ∧
      span ≤ 24 ∧ year ≤ 3 ∧ (rest ≤ 364 ∨ rest = 365 ∧ year = 3 ∧ (span = 24 → century = 3)) := by
  -- The last century of a cycle and the last year of a span are a day longer than the others.
  let century := min (day / 36524) 3
  let ofCentury := day - 36524 * century
  let ofSpan := ofCentury % 1461
  let year := min (ofSpan / 365) 3
  refine ⟨century, ofCentury / 1461, year, ofSpan - 365 * year, ?_, ?_, ?_, ?_, ?_⟩
  all_goals
    simp only [year, ofSpan, ofCentury, century]
    omega

/-- The year of a day is found from its parts. -/
theorem yearOfCycle_parts {century span year rest : Nat} (centuries : century ≤ 3) (spans : span ≤ 24)
    (years : year ≤ 3) (days : rest ≤ 364 ∨ rest = 365 ∧ year = 3 ∧ (span = 24 → century = 3)) :
    yearOfCycle (36524 * century + 1461 * span + 365 * year + rest) = 100 * century + 4 * span + year := by
  by_cases last : century = 3 ∧ span = 24 ∧ rest = 365
  · obtain ⟨rfl, rfl, rfl⟩ := last
    obtain rfl : year = 3 := by omega
    rfl
  let day := 36524 * century + 1461 * span + 365 * year + rest
  let surplus := 24 * century + span + 365 * year + rest
  have byCentury : day / 36524 = century := by omega
  have byCycle : day / 146096 = 0 := by omega
  have bySpan : day / 1460 = 25 * century + span + surplus / 1460 := by omega
  have few : surplus / 1460 = if 1460 ≤ surplus then 1 else 0 := by split <;> omega
  show (day - day / 1460 + day / 36524 - day / 146096) / 365 = _
  rw [byCentury, byCycle, bySpan, few]
  split <;> omega

/-- **The year of a day** is one of the 400 of a cycle. The day is less than 365 days after its start, or 365 if
a leap day ends the year. -/
theorem yearOfCycle_spec {day : Nat} (inside : day < 146097) :
    yearOfCycle day ≤ 399 ∧ daysBefore (yearOfCycle day) ≤ day ∧
      (day - daysBefore (yearOfCycle day) ≤ 364 ∨
        day - daysBefore (yearOfCycle day) = 365 ∧ isLeapYear (yearOfCycle day + 1 : Nat) = true) := by
  obtain ⟨century, span, year, rest, rfl, centuries, spans, years, days⟩ := day_parts inside
  rw [yearOfCycle_parts centuries spans years days]
  have before : daysBefore (100 * century + 4 * span + year) =
      36524 * century + 1461 * span + 365 * year := by
    have quarters : (100 * century + 4 * span + year) / 4 = 25 * century + span := by omega
    have hundreds : (100 * century + 4 * span + year) / 100 = century := by omega
    unfold daysBefore
    rw [quarters, hundreds]
    omega
  rw [before]
  refine ⟨by omega, by omega, days.imp (by omega) fun ⟨leap, last, full⟩ => ⟨by omega, ?_⟩⟩
  unfold isLeapYear
  simp only [Bool.and_eq_true, Bool.or_eq_true, beq_iff_eq, bne_iff_ne, ne_eq]
  omega

/-! ### Months of a year -/

/-- The month of a day in its year, counted from March. -/
def monthFromMarch (day : Nat) : Nat := (5 * day + 2) / 153

/-- The days of a year before one of its months. -/
def daysBeforeMonth (month : Nat) : Nat := (153 * month + 2) / 5

/-- The name of a month that is counted from March. -/
def monthName (month : Nat) : Nat := if month < 10 then month + 3 else month - 9

/-- Every month but the last ends where the next one starts. -/
theorem daysInMonth_monthName (year : Int) {month : Nat} (early : month ≤ 10) :
    daysInMonth year (monthName month) = daysBeforeMonth (month + 1) - daysBeforeMonth month := by
  interval_cases month <;> rfl

/-- **The month of a day** is one of the twelve of a year. The day is in the month, the leap day if the year
ends with one. -/
theorem monthDay_spec {day : Nat} {year : Int}
    (inside : day ≤ 364 ∨ day = 365 ∧ isLeapYear year = true) :
    monthFromMarch day ≤ 11 ∧ daysBeforeMonth (monthFromMarch day) ≤ day ∧
      day - daysBeforeMonth (monthFromMarch day) + 1 ≤
        daysInMonth year (monthName (monthFromMarch day)) := by
  have months : monthFromMarch day ≤ 11 := by
    unfold monthFromMarch
    omega
  have begun : daysBeforeMonth (monthFromMarch day) ≤ day := by
    unfold monthFromMarch daysBeforeMonth
    omega
  refine ⟨months, begun, ?_⟩
  by_cases early : monthFromMarch day ≤ 10
  · have ended : day < daysBeforeMonth (monthFromMarch day + 1) := by
      unfold monthFromMarch daysBeforeMonth
      omega
    rw [daysInMonth_monthName year early]
    omega
  · have last : monthFromMarch day = 11 := by omega
    rw [last]
    show day - 337 + 1 ≤ if isLeapYear year = true then 29 else 28
    rcases inside with short | ⟨rfl, leap⟩
    · split <;> omega
    · rw [if_pos leap]

/-! ### Dates -/

/-- Leap years repeat with the cycles. -/
theorem isLeapYear_add_cycle (year cycle : Int) : isLeapYear (year + cycle * 400) = isLeapYear year := by
  unfold isLeapYear
  have quarters : (year + cycle * 400) % 4 = year % 4 := by omega
  have hundreds : (year + cycle * 400) % 100 = year % 100 := by omega
  have cycles : (year + cycle * 400) % 400 = year % 400 := by omega
  rw [quarters, hundreds, cycles]

/-- The months before March are those of the next year. -/
theorem monthName_le {month : Nat} (months : month ≤ 11) : monthName month ≤ 2 ↔ 10 ≤ month := by
  unfold monthName
  split <;> omega

/-- The parts of a date: its cycle, the day in the cycle and the day in the year. -/
theorem Date.ofDayNumber_eq (number : Int) :
    let day := ((number + epochOffset) % 146097).toNat
    let rest := day - daysBefore (yearOfCycle day)
    let year : Int := yearOfCycle day + (number + epochOffset) / 146097 * 400
    Date.ofDayNumber number =
      { year := if monthName (monthFromMarch rest) ≤ 2 then year + 1 else year
        month := monthName (monthFromMarch rest)
        day := rest - daysBeforeMonth (monthFromMarch rest) + 1 } := rfl

/-- **The number of a date is the number that the date was made of.** -/
theorem Date.dayNumber_ofDayNumber (number : Int) : (Date.ofDayNumber number).dayNumber = number := by
  rw [ofDayNumber_eq]
  generalize cycles : (number + epochOffset) / 146097 = cycle
  generalize chosen : ((number + epochOffset) % 146097).toNat = day
  have inside : day < 146097 := by omega
  obtain ⟨years, begun, days⟩ := yearOfCycle_spec inside
  generalize yearOfCycle day = year at years begun days
  generalize remaining : day - daysBefore year = rest at days
  obtain ⟨months, started, _⟩ := monthDay_spec days
  generalize monthFromMarch rest = month at months started
  have named := monthName_le months
  have counted : (monthName month + 9) % 12 = month := by
    unfold monthName
    split <;> omega
  -- The year that starts in March is the year of the date, or the one before.
  have marched : (if monthName month ≤ 2 then
        (if monthName month ≤ 2 then (year : Int) + cycle * 400 + 1 else year + cycle * 400) - 1
      else if monthName month ≤ 2 then (year : Int) + cycle * 400 + 1 else year + cycle * 400) =
      year + cycle * 400 := by
    split <;> omega
  have cycled : ((year : Int) + cycle * 400) / 400 = cycle := by omega
  have within : ((year : Int) + cycle * 400) % 400 = year := by omega
  unfold dayNumber
  dsimp only
  rw [marched, counted, cycled, within]
  unfold daysBefore at begun remaining
  unfold daysBeforeMonth at started ⊢
  omega

/-- **The date of every day is in the calendar.** -/
theorem Date.exists_ofDayNumber (number : Int) : (Date.ofDayNumber number).exists? = true := by
  rw [ofDayNumber_eq]
  generalize (number + epochOffset) / 146097 = cycle
  generalize chosen : ((number + epochOffset) % 146097).toNat = day
  have inside : day < 146097 := by omega
  obtain ⟨_, _, days⟩ := yearOfCycle_spec inside
  generalize yearOfCycle day = year at days
  generalize day - daysBefore year = rest at days
  let named : Int := if monthName (monthFromMarch rest) ≤ 2 then (year : Int) + cycle * 400 + 1
    else year + cycle * 400
  have fits : rest - daysBeforeMonth (monthFromMarch rest) + 1 ≤
      daysInMonth named (monthName (monthFromMarch rest)) := by
    rcases days with short | ⟨rfl, leap⟩
    · exact (monthDay_spec (.inl short)).2.2
    -- A leap day is the last day before March, in the year that comes after.
    · refine (monthDay_spec (.inr ⟨rfl, ?_⟩)).2.2
      have next : named = (year + 1 : Nat) + cycle * 400 := by
        show (year : Int) + cycle * 400 + 1 = _
        omega
      rw [next, isLeapYear_add_cycle]
      exact leap
  unfold exists?
  rw [Bool.and_eq_true, decide_eq_true_eq, decide_eq_true_eq]
  exact ⟨Nat.le_add_left 1 _, fits⟩

/-- A date in the calendar has one of twelve months and one of 31 days. -/
theorem Date.bounds_of_exists {date : Date} (inside : date.exists? = true) :
    date.month ≤ 12 ∧ date.day ≤ 31 := by
  unfold exists? at inside
  rw [Bool.and_eq_true, decide_eq_true_eq, decide_eq_true_eq] at inside
  obtain ⟨positive, fits⟩ := inside
  have months : daysInMonth date.year date.month ≤ 31 ∧
      (0 < daysInMonth date.year date.month → date.month ≤ 12) := by
    unfold daysInMonth
    simp only [Bool.or_eq_true, Bool.and_eq_true, beq_iff_eq, decide_eq_true_eq]
    split_ifs <;> omega
  exact ⟨months.2 (by omega), by omega⟩

end Switchboard.Time
