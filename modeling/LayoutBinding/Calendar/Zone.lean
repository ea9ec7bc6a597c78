import LayoutBinding.Character.Letter
import LayoutBinding.Number.Numeral
import LayoutBinding.Text.Quoted

/-!
# Time zones

A zone is a fixed distance from universal time, in microseconds and less than a
day, with or without a name of its own.
-/

namespace LayoutBinding

def microsPerSecond : Int :=
  1000000

def microsPerDay : Int :=
  86400000000

/-- A zone with a fixed offset. -/
structure Zone where
  /-- Local time less universal time, in microseconds. -/
  offset : Int
  name : Option String
  /-- The offset is less than a day. -/
  bounded : -microsPerDay < offset ∧ offset < microsPerDay
deriving DecidableEq

namespace Zone

/-- The zone with the given offset and name, if the offset is in bounds. -/
def of? (offset : Int) (name : Option String) : Option Zone :=
  if bounded : -microsPerDay < offset ∧ offset < microsPerDay then
    some ⟨offset, name, bounded⟩
  else
    none

def universal : Zone :=
  ⟨0, none, by decide⟩

/-- An offset as a sign, hours, minutes, and where they are not zero seconds
and microseconds, joined by colons and a point. -/
def offsetText (offset : Int) : String :=
  let micros := offset.natAbs
  let seconds := micros / 1000000
  let rest := micros % 1000000
  (if offset < 0 then "-" else "+") ++ Numeral.padded 2 (seconds / 3600) ++ ":" ++
    Numeral.padded 2 (seconds / 60 % 60) ++
    (if seconds % 60 = 0 ∧ rest = 0 then "" else ":" ++ Numeral.padded 2 (seconds % 60)) ++
    (if rest = 0 then "" else "." ++ Numeral.padded 6 rest)

/-- The given name, or one made of the offset. -/
def label (z : Zone) : String :=
  match z.name with
  | some name => name
  | none => if z.offset = 0 then "UTC" else "UTC" ++ offsetText z.offset

/-- A span of time as quoted texts show it: whole days, seconds of a day and
microseconds of a second, none of the last two negative, zeros left out. -/
def spanQuoted (micros : Int) : String :=
  let days := micros.fdiv microsPerDay
  let seconds := (micros.fmod microsPerDay).fdiv microsPerSecond
  let rest := micros.fmod microsPerSecond
  let part (label : String) (count : Int) : List String :=
    if count = 0 then [] else [label ++ "=" ++ Numeral.whole count]
  let parts := part "days" days ++ part "seconds" seconds ++ part "microseconds" rest
  "datetime.timedelta(" ++ (if parts = [] then "0" else ", ".intercalate parts) ++ ")"

/-- The zone as quoted texts show it. -/
def quoted (z : Zone) : String :=
  match z.name with
  | some name =>
      "datetime.timezone(" ++ spanQuoted z.offset ++ ", " ++ LayoutBinding.quoted name ++ ")"
  | none =>
      if z.offset = 0 then
        "datetime.timezone.utc"
      else
        "datetime.timezone(" ++ spanQuoted z.offset ++ ")"

end Zone

end LayoutBinding
