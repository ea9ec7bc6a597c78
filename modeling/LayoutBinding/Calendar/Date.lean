import LayoutBinding.Number.Numeral

/-!
# Dates

Dates of the proleptic Gregorian calendar in the years 1 to 9999.  A date is
also known by its day number, counted from 1 for the first of January of the
year 1, which was a Monday.
-/

namespace LayoutBinding

def isLeapYear (year : Nat) : Bool :=
  year % 4 = 0 && (year % 100 ≠ 0 || year % 400 = 0)

/-- The number of days of a month, the months counted from 1. -/
def daysInMonth (year month : Nat) : Nat :=
  if month = 2 then
    if isLeapYear year then 29 else 28
  else if month = 4 ∨ month = 6 ∨ month = 9 ∨ month = 11 then
    30
  else
    31

namespace Date

def IsValid (year month day : Nat) : Prop :=
  (1 ≤ year ∧ year ≤ 9999) ∧ (1 ≤ month ∧ month ≤ 12) ∧
    1 ≤ day ∧ day ≤ daysInMonth year month

instance (year month day : Nat) : Decidable (IsValid year month day) := by
  unfold IsValid
  infer_instance

end Date

structure Date where
  /-- The year, from 1 to 9999. -/
  year : Nat
  /-- The month, from 1 to 12. -/
  month : Nat
  /-- The day of the month, from 1. -/
  day : Nat
  valid : Date.IsValid year month day
deriving DecidableEq

namespace Date

/-- The date with the given parts, if it exists. -/
def of? (year month day : Nat) : Option Date :=
  if valid : IsValid year month day then some ⟨year, month, day, valid⟩ else none

def daysBeforeYear (year : Nat) : Nat :=
  let past := year - 1
  past * 365 + past / 4 - past / 100 + past / 400

def daysBeforeMonth (year : Nat) : Nat → Nat
  | 0 => 0
  | 1 => 0
  | month + 2 => daysBeforeMonth year (month + 1) + daysInMonth year (month + 1)

def dayOfYear (d : Date) : Nat :=
  daysBeforeMonth d.year d.month + d.day

def dayNumber (d : Date) : Nat :=
  daysBeforeYear d.year + d.dayOfYear

def lastDayNumber : Nat :=
  3652059

/-- The day of the week, from 0 for Monday. -/
def weekday (d : Date) : Nat :=
  (d.dayNumber + 6) % 7

/-- The month and the day of the month, from the days left of the year, when
`month` months are still possible. -/
def monthAndDay (year : Nat) : Nat → Nat → Nat × Nat
  | 0, days => (12, days + 1)
  | left + 1, days =>
      let month := 12 - left
      if days < daysInMonth year month then
        (month, days + 1)
      else
        monthAndDay year left (days - daysInMonth year month)

/-- The date with a day number.  Periods of 400, 100, 4 years and 1 year are
taken off in turn; the last century and the last year of a period may be one
day longer than the others. -/
def ofDayNumber? (number : Nat) : Option Date :=
  if 1 ≤ number ∧ number ≤ lastDayNumber then
    let days := number - 1
    let days₄₀₀ := days % 146097
    let centuries := min 3 (days₄₀₀ / 36524)
    let days₁₀₀ := days₄₀₀ - centuries * 36524
    let days₄ := days₁₀₀ % 1461
    let years := min 3 (days₄ / 365)
    let year :=
      days / 146097 * 400 + centuries * 100 + days₁₀₀ / 1461 * 4 + years + 1
    let (month, day) := monthAndDay year 12 (days₄ - years * 365)
    of? year month day
  else
    none

/-- The date of a day of a week, weeks and days counted from 1.  The first week
of a year is the one with its first Thursday. -/
def ofWeek? (year week weekday : Nat) : Option Date := do
  let first ← of? year 1 1
  let long := first.weekday = 3 || (first.weekday = 2 && isLeapYear year)
  if 1 ≤ week ∧ (week ≤ 52 ∨ week = 53 ∧ long) ∧ 1 ≤ weekday ∧ weekday ≤ 7 then
    let shift := if first.weekday ≤ 3 then 0 else 7
    ofDayNumber? (first.dayNumber + shift + (week - 1) * 7 + (weekday - 1) - first.weekday)
  else
    none

/-- The date as year, month and day, joined by hyphens. -/
def iso (d : Date) : String :=
  Numeral.padded 4 d.year ++ "-" ++ Numeral.padded 2 d.month ++ "-" ++
    Numeral.padded 2 d.day

theorem of?_eq_some (d : Date) : of? d.year d.month d.day = some d := by
  simp [of?, d.valid]

end Date

end LayoutBinding
