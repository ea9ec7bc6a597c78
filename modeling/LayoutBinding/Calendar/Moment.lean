import LayoutBinding.Calendar.Date
import LayoutBinding.Calendar.Zone

/-!
# Moments

A moment is a date with a time of day.  With a zone it also denotes an instant
of universal time, which moving it to another zone preserves.
-/

namespace LayoutBinding

namespace TimeOfDay

def IsValid (hour minute second micro : Nat) : Prop :=
  hour < 24 ∧ minute < 60 ∧ second < 60 ∧ micro < 1000000

instance (hour minute second micro : Nat) : Decidable (IsValid hour minute second micro) := by
  unfold IsValid
  infer_instance

end TimeOfDay

structure TimeOfDay where
  /-- The hour, below 24. -/
  hour : Nat
  /-- The minute, below 60. -/
  minute : Nat
  /-- The second, below 60. -/
  second : Nat
  micro : Nat
  valid : TimeOfDay.IsValid hour minute second micro
deriving DecidableEq

namespace TimeOfDay

/-- The time with the given parts, if it exists. -/
def of? (hour minute second micro : Nat) : Option TimeOfDay :=
  if valid : IsValid hour minute second micro then
    some ⟨hour, minute, second, micro, valid⟩
  else
    none

def midnight : TimeOfDay :=
  ⟨0, 0, 0, 0, by decide⟩

def micros (t : TimeOfDay) : Nat :=
  ((t.hour * 60 + t.minute) * 60 + t.second) * 1000000 + t.micro

/-- The time that is so many microseconds after the start of a day. -/
def ofMicros? (micros : Nat) : Option TimeOfDay :=
  let seconds := micros / 1000000
  of? (seconds / 3600) (seconds / 60 % 60) (seconds % 60) (micros % 1000000)

def iso (t : TimeOfDay) : String :=
  Numeral.padded 2 t.hour ++ ":" ++ Numeral.padded 2 t.minute ++ ":" ++
    Numeral.padded 2 t.second ++
    (if t.micro = 0 then "" else "." ++ Numeral.padded 6 t.micro)

end TimeOfDay

/-- A date with a time of day, in a zone or in none. -/
structure Moment where
  date : Date
  time : TimeOfDay
  zone : Option Zone
deriving DecidableEq

namespace Moment

/-- The start of a day, in no zone. -/
def ofDate (d : Date) : Moment :=
  ⟨d, .midnight, none⟩

def offset (m : Moment) : Int :=
  match m.zone with
  | some zone => zone.offset
  | none => 0

/-- Local microseconds, counted so that the day number is the count of days. -/
def localMicros (m : Moment) : Int :=
  m.date.dayNumber * microsPerDay + m.time.micros

/-- Microseconds of universal time. -/
def instant (m : Moment) : Int :=
  m.localMicros - m.offset

/-- The moment with the given local microseconds, if its date exists. -/
def ofLocalMicros? (micros : Int) (zone : Option Zone) : Option Moment := do
  let days := micros.fdiv microsPerDay
  if 0 < days then
    let date ← Date.ofDayNumber? days.toNat
    let time ← TimeOfDay.ofMicros? (micros.fmod microsPerDay).toNat
    pure ⟨date, time, zone⟩
  else
    none

/-- The same instant in another zone.  Both the universal and the local date
have to exist. -/
def inZone? (m : Moment) (zone : Zone) : Option Moment := do
  let _ ← ofLocalMicros? m.instant none
  ofLocalMicros? (m.instant + zone.offset) (some zone)

/-- Date, time and offset in ISO 8601, with a mark between date and time. -/
def isoWith (mark : String) (m : Moment) : String :=
  m.date.iso ++ mark ++ m.time.iso ++
    match m.zone with
    | some zone => Zone.offsetText zone.offset
    | none => ""

def iso (m : Moment) : String :=
  m.isoWith "T"

/-- The moment as quoted texts show it: a zero second is left out if the
microsecond is zero too, and a zero microsecond always. -/
def quoted (m : Moment) : String :=
  let seconds :=
    if m.time.micro ≠ 0 then
      [m.time.second, m.time.micro]
    else if m.time.second ≠ 0 then
      [m.time.second]
    else
      []
  let numbers :=
    [m.date.year, m.date.month, m.date.day, m.time.hour, m.time.minute] ++ seconds
  "datetime.datetime(" ++ ", ".intercalate (numbers.map Numeral.natural) ++
    (match m.zone with
      | some zone => ", tzinfo=" ++ zone.quoted
      | none => "") ++ ")"

end Moment

def Date.quoted (d : Date) : String :=
  "datetime.date(" ++ ", ".intercalate ([d.year, d.month, d.day].map Numeral.natural) ++ ")"

end LayoutBinding
