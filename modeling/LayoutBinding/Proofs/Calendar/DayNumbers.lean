import LayoutBinding.Calendar.Moment

/-!
# Day numbers

The dates of the years 1 to 9999 have the day numbers from 1 to `Date.lastDayNumber`, and a date
is found from its number.  So a moment can be moved to any zone, and stays the same instant
there, as long as it lies in these years both in universal time and in the zone.
-/

namespace LayoutBinding

theorem isLeapYear_iff {year : Nat} :
    isLeapYear year = true ↔ year % 4 = 0 ∧ (year % 100 ≠ 0 ∨ year % 400 = 0) := by
  simp [isLeapYear]

namespace Date

/-! ### Months of a year -/

theorem daysBeforeMonth_succ (year : Nat) {month : Nat} (positive : 0 < month) :
    daysBeforeMonth year (month + 1) = daysBeforeMonth year month + daysInMonth year month := by
  obtain ⟨before, rfl⟩ := Nat.exists_eq_succ_of_ne_zero (Nat.ne_of_gt positive)
  rfl

theorem daysBeforeMonth_thirteen (year : Nat) :
    daysBeforeMonth year 13 = if isLeapYear year then 366 else 365 := by
  cases leap : isLeapYear year <;> simp [daysBeforeMonth, daysInMonth, leap]

/-- A day of what is left of a year lies in one of the months that are left. -/
theorem monthAndDay_spec {year : Nat} (left days : Nat) (possible : left ≤ 12)
    (within : daysBeforeMonth year (13 - left) + days < daysBeforeMonth year 13) :
    (1 ≤ (monthAndDay year left days).1 ∧ (monthAndDay year left days).1 ≤ 12) ∧
      (1 ≤ (monthAndDay year left days).2 ∧
        (monthAndDay year left days).2 ≤ daysInMonth year (monthAndDay year left days).1) ∧
      daysBeforeMonth year (monthAndDay year left days).1 + (monthAndDay year left days).2 =
        daysBeforeMonth year (13 - left) + days + 1 := by
  induction left generalizing days with
  | zero => exact absurd within (by simp)
  | succ left ih =>
      have month : 13 - (left + 1) = 12 - left := by omega
      have next : 13 - left = 12 - left + 1 := by omega
      rw [month] at within ⊢
      rw [monthAndDay]
      split
      next inMonth =>
        dsimp only
        omega
      next later =>
        have behind := daysBeforeMonth_succ year (show 0 < 12 - left by omega)
        rw [next, behind] at ih
        have rest := ih (days - daysInMonth year (12 - left)) (by omega) (by omega)
        refine ⟨rest.1, rest.2.1, ?_⟩
        rw [rest.2.2]
        omega

/-! ### Years -/

/-- The years, centuries and longer periods before a day, and the days left of its year. -/
theorem daysBeforeYear_add (periods left : Nat) {centuries fours years : Nat}
    (century : centuries ≤ 3) (four : fours ≤ 24) (single : years ≤ 3) :
    daysBeforeYear (periods * 400 + centuries * 100 + fours * 4 + years + 1) + left =
      periods * 146097 + centuries * 36524 + fours * 1461 + years * 365 + left := by
  unfold daysBeforeYear
  dsimp only
  omega

theorem exists_ofDayNumber? (number : Nat) (first : 1 ≤ number) (last : number ≤ lastDayNumber) :
    ∃ d, ofDayNumber? number = some d ∧ d.dayNumber = number := by
  have small : number ≤ 3652059 := last
  rw [ofDayNumber?, if_pos ⟨first, last⟩]
  generalize daysEq : number - 1 = days
  dsimp only
  generalize periodsEq : days / 146097 = periods
  generalize days₄₀₀Eq : days % 146097 = days₄₀₀
  generalize centuriesEq : min 3 (days₄₀₀ / 36524) = centuries
  generalize days₁₀₀Eq : days₄₀₀ - centuries * 36524 = days₁₀₀
  generalize foursEq : days₁₀₀ / 1461 = fours
  generalize days₄Eq : days₁₀₀ % 1461 = days₄
  generalize yearsEq : min 3 (days₄ / 365) = years
  generalize leftEq : days₄ - years * 365 = left
  have century : centuries ≤ 3 := by omega
  have four : fours ≤ 24 := by omega
  have single : years ≤ 3 := by omega
  have before := daysBeforeYear_add periods left century four single
  generalize yearEq : periods * 400 + centuries * 100 + fours * 4 + years + 1 = year
  rw [yearEq] at before
  have inYear : left < daysBeforeMonth year 13 := by
    rw [daysBeforeMonth_thirteen]
    split
    next => omega
    next common =>
      rw [isLeapYear_iff] at common
      omega
  have range : 1 ≤ year ∧ year ≤ 9999 := by omega
  have spec := monthAndDay_spec 12 left (Nat.le_refl 12) (by simpa [daysBeforeMonth] using inYear)
  generalize monthAndDay year 12 left = found at spec ⊢
  obtain ⟨month, day⟩ := found
  dsimp only at spec
  obtain ⟨validMonth, validDay, sum⟩ := spec
  have valid : IsValid year month day := ⟨range, validMonth, validDay⟩
  refine ⟨⟨year, month, day, valid⟩, dif_pos valid, ?_⟩
  change daysBeforeYear year + (daysBeforeMonth year month + day) = number
  have january : daysBeforeMonth year (13 - 12) = 0 := rfl
  omega

end Date

/-! ### Moments by microseconds -/

theorem TimeOfDay.exists_ofMicros? (micros : Nat) (inDay : micros < 86400000000) :
    ∃ t, ofMicros? micros = some t ∧ t.micros = micros := by
  have valid : IsValid (micros / 1000000 / 3600) (micros / 1000000 / 60 % 60)
      (micros / 1000000 % 60) (micros % 1000000) := by
    unfold IsValid
    omega
  refine ⟨_, dif_pos valid, ?_⟩
  unfold TimeOfDay.micros
  dsimp only
  omega

namespace Moment

/-- Microseconds, counted as those of moments are, that lie in the years 1 to 9999. -/
def InYears (micros : Int) : Prop :=
  microsPerDay ≤ micros ∧ micros < (Date.lastDayNumber + 1) * microsPerDay

theorem exists_ofLocalMicros? {micros : Int} (inYears : InYears micros) (zone : Option Zone) :
    ∃ m, ofLocalMicros? micros zone = some m ∧ m.localMicros = micros ∧ m.zone = zone := by
  obtain ⟨lower, upper⟩ := inYears
  have perDay : microsPerDay = 86400000000 := rfl
  have lastDay : Date.lastDayNumber = 3652059 := rfl
  rw [lastDay] at upper
  have days : micros.fdiv microsPerDay = micros / 86400000000 :=
    Int.fdiv_eq_ediv_of_nonneg micros (by decide)
  have rest : micros.fmod microsPerDay = micros % 86400000000 :=
    Int.fmod_eq_emod_of_nonneg micros (by decide)
  obtain ⟨d, foundDate, number⟩ := Date.exists_ofDayNumber?
    (micros / 86400000000).toNat (by omega) (by omega)
  obtain ⟨t, foundTime, inDay⟩ := TimeOfDay.exists_ofMicros?
    (micros % 86400000000).toNat (by omega)
  refine ⟨⟨d, t, zone⟩, ?_, ?_, rfl⟩
  · rw [ofLocalMicros?, days, rest, foundDate, foundTime]
    exact if_pos (by omega)
  · rw [localMicros, number, inDay, perDay]
    omega

/-- A moment can be moved to a zone if it lies in the years both in universal time and in the
zone, and it stays the same instant there. -/
theorem exists_inZone? {m : Moment} {zone : Zone} (universal : InYears m.instant)
    (inZone : InYears (m.instant + zone.offset)) :
    ∃ moved, m.inZone? zone = some moved ∧ moved.instant = m.instant ∧
      moved.zone = some zone := by
  obtain ⟨_, foundUniversal, -⟩ := exists_ofLocalMicros? universal none
  obtain ⟨moved, found, sameMicros, sameZone⟩ := exists_ofLocalMicros? inZone (some zone)
  refine ⟨moved, ?_, ?_, sameZone⟩
  · rw [inZone?, foundUniversal, found]
    rfl
  · rw [instant, offset, sameMicros, sameZone]
    exact Int.add_sub_cancel m.instant zone.offset

/-- Where a moment is moved to depends on nothing but its instant. -/
theorem inZone?_congr {m other : Moment} (same : m.instant = other.instant) (zone : Zone) :
    m.inZone? zone = other.inZone? zone := by
  rw [inZone?, inZone?, same]

end Moment

end LayoutBinding
