import LayoutBinding.Character.Digit
import LayoutBinding.Calendar.Moment

/-!
# Reference-time layouts

A layout shows how the reference moment `Mon Jan 2 15:04:05 MST 2006`, in a zone
seven hours behind universal time, would be written.  Its chunks are replaced by
the parts of another moment and everything else is copied.  Names of months and
weekdays are English.
-/

namespace LayoutBinding

namespace ReferenceLayout

def monthNames : List String :=
  ["January", "February", "March", "April", "May", "June", "July", "August",
    "September", "October", "November", "December"]

/-- The names of the weekdays, from Monday. -/
def weekdayNames : List String :=
  ["Monday", "Tuesday", "Wednesday", "Thursday", "Friday", "Saturday", "Sunday"]

inductive OffsetForm where
  /-- Hours, minutes and seconds with colons. -/
  | colonSeconds
  | seconds
  /-- Hours and minutes with a colon. -/
  | colonMinutes
  | minutes
  | hours
deriving DecidableEq

/-- The parts of a moment that a layout can ask for. -/
inductive Chunk where
  | monthName
  /-- The first three letters of the name of the month. -/
  | monthShort
  | weekdayName
  /-- The first three letters of the name of the weekday. -/
  | weekdayShort
  /-- The name of the zone, or its offset. -/
  | zoneName
  | year
  /-- The day of the year in three places. -/
  | dayOfYear
  | monthPadded
  | dayPadded
  /-- The hour of the half day in two places. -/
  | halfHourPadded
  | minutePadded
  | secondPadded
  /-- The year of the century in two places. -/
  | yearOfCentury
  | hour
  /-- The day, filled up with a space. -/
  | daySpaced
  | month
  | day
  /-- The hour of the half day. -/
  | halfHour
  | minute
  | second
  /-- The half of the day in capitals. -/
  | upperHalf
  /-- The half of the day in small letters. -/
  | lowerHalf
  | offset (form : OffsetForm)
  /-- The offset, or `Z` if it is less than a second. -/
  | universalOffset (form : OffsetForm)
  /-- So many places of the fraction of a second after a mark; a trimmed
  fraction ends before its trailing zeros and vanishes without a place. -/
  | fraction (mark : Char) (trimmed : Bool) (places : Nat)
deriving DecidableEq

namespace OffsetForm

def text : OffsetForm → String
  | .colonSeconds => "07:00:00"
  | .seconds => "070000"
  | .colonMinutes => "07:00"
  | .minutes => "0700"
  | .hours => "07"

def render (form : OffsetForm) (seconds : Nat) : String :=
  let hh := Numeral.padded 2 (seconds / 3600)
  let mm := Numeral.padded 2 (seconds % 3600 / 60)
  let ss := Numeral.padded 2 (seconds % 60)
  match form with
  | .colonSeconds => hh ++ ":" ++ mm ++ ":" ++ ss
  | .seconds => hh ++ mm ++ ss
  | .colonMinutes => hh ++ ":" ++ mm
  | .minutes => hh ++ mm
  | .hours => hh

end OffsetForm

namespace Chunk

def text : Chunk → List Char
  | .monthName => "January".toList
  | .monthShort => "Jan".toList
  | .weekdayName => "Monday".toList
  | .weekdayShort => "Mon".toList
  | .zoneName => "MST".toList
  | .year => "2006".toList
  | .dayOfYear => "002".toList
  | .monthPadded => "01".toList
  | .dayPadded => "02".toList
  | .halfHourPadded => "03".toList
  | .minutePadded => "04".toList
  | .secondPadded => "05".toList
  | .yearOfCentury => "06".toList
  | .hour => "15".toList
  | .daySpaced => "_2".toList
  | .month => "1".toList
  | .day => "2".toList
  | .halfHour => "3".toList
  | .minute => "4".toList
  | .second => "5".toList
  | .upperHalf => "PM".toList
  | .lowerHalf => "pm".toList
  | .offset form => '-' :: form.text.toList
  | .universalOffset form => 'Z' :: form.text.toList
  | .fraction mark trimmed places => mark :: List.replicate places (if trimmed then '9' else '0')

/-- The chunks with a fixed text, in the order in which they are tried: of two
that begin alike the longer one comes first. -/
def table : List Chunk :=
  [.monthName, .monthShort, .weekdayName, .weekdayShort, .zoneName, .year, .dayOfYear,
    .monthPadded, .dayPadded, .halfHourPadded, .minutePadded, .secondPadded, .yearOfCentury,
    .hour, .daySpaced, .month, .day, .halfHour, .minute, .second, .upperHalf, .lowerHalf,
    .offset .colonSeconds, .offset .seconds, .offset .colonMinutes, .offset .minutes,
    .offset .hours, .universalOffset .colonSeconds, .universalOffset .seconds,
    .universalOffset .colonMinutes, .universalOffset .minutes, .universalOffset .hours]

/-- Whether a small ASCII letter comes next. -/
def beforeSmallLetter : List Char → Bool
  | [] => false
  | c :: _ => 'a' ≤ c && c ≤ 'z'

/-- Whether a chunk with a fixed text is written at the start of the layout.  A
short name is no chunk if it is the start of a longer word. -/
def startsWith (chunk : Chunk) (cs : List Char) : Bool :=
  chunk.text.isPrefixOf cs &&
    !((chunk = .monthShort || chunk = .weekdayShort) && beforeSmallLetter (cs.drop 3))

/-- The fraction at the start of the layout: a mark and a run of one figure,
zero or nine, with no other digit after it. -/
def fractionAt? : List Char → Option Chunk
  | mark :: figure :: rest =>
      if (mark = '.' ∨ mark = ',') ∧ (figure = '0' ∨ figure = '9') then
        if (rest.dropWhile (· = figure)).head?.any Character.isDigit then
          none
        else
          some (.fraction mark (figure = '9') (1 + (rest.takeWhile (· = figure)).length))
      else
        none
  | _ => none

/-- The chunk at the start of the layout.  An underscore before a year is not
the start of a day. -/
def at? (cs : List Char) : Option Chunk :=
  if "_2006".toList.isPrefixOf cs then
    none
  else
    fractionAt? cs <|> table.find? (startsWith · cs)

end Chunk

/-- A chunk, or a character that is copied. -/
inductive Piece where
  | char (c : Char)
  | chunk (part : Chunk)
deriving DecidableEq

/-- How a layout writes the piece. -/
def Piece.text : Piece → List Char
  | .char c => [c]
  | .chunk part => part.text

/-- Cut a layout into pieces from the left. -/
def pieces : List Char → List Piece
  | [] => []
  | c :: rest =>
      match Chunk.at? (c :: rest) with
      | some part => .chunk part :: pieces (rest.drop (part.text.length - 1))
      | none => .char c :: pieces rest
termination_by cs => cs.length
decreasing_by
  · simp only [List.length_drop, List.length_cons]
    omega
  · simp

/-- A chunk, or a run of characters that are copied. -/
inductive Token where
  | literal (text : List Char)
  | chunk (part : Chunk)
deriving DecidableEq

/-- How a layout writes the token. -/
def Token.text : Token → List Char
  | .literal text => text
  | .chunk part => part.text

/-- Join neighbouring characters into runs. -/
def group : List Piece → List Token
  | [] => []
  | .chunk part :: rest => .chunk part :: group rest
  | .char c :: rest =>
      match group rest with
      | .literal text :: tokens => .literal (c :: text) :: tokens
      | tokens => .literal [c] :: tokens

def tokens (layout : String) : List Token :=
  group (pieces layout.toList)

def renderOffset (form : OffsetForm) (m : Moment) : String :=
  let seconds := m.offset.tdiv microsPerSecond
  (if seconds < 0 then "-" else "+") ++ form.render seconds.natAbs

/-- The name of the zone if it consists of letters, else the offset. -/
def renderZone (m : Moment) : String :=
  match m.zone with
  | none => "UTC"
  | some zone =>
      let label := zone.label.toList
      if label ≠ [] ∧ label.all Character.isLetter then
        zone.label
      else
        renderOffset .minutes m

/-- The hour on a dial of twelve hours. -/
def hourOfDial (hour : Nat) : Nat :=
  if hour % 12 = 0 then 12 else hour % 12

/-- Places of the fraction of a second; nine are known, of which the last three
are zero. -/
def renderFraction (mark : Char) (trimmed : Bool) (places micro : Nat) : List Char :=
  let digits := (Numeral.padded 6 micro).toList
  let shown := (digits ++ ['0', '0', '0']).take places
  if trimmed then
    let kept := (shown.reverse.dropWhile (· = '0')).reverse
    if kept = [] then [] else mark :: kept
  else
    mark :: shown

def Chunk.render (m : Moment) : Chunk → List Char
  | .monthName => (monthNames.getD (m.date.month - 1) "").toList
  | .monthShort => (monthNames.getD (m.date.month - 1) "").toList.take 3
  | .weekdayName => (weekdayNames.getD m.date.weekday "").toList
  | .weekdayShort => (weekdayNames.getD m.date.weekday "").toList.take 3
  | .zoneName => (renderZone m).toList
  | .year => (Numeral.padded 4 m.date.year).toList
  | .dayOfYear => (Numeral.padded 3 m.date.dayOfYear).toList
  | .monthPadded => (Numeral.padded 2 m.date.month).toList
  | .dayPadded => (Numeral.padded 2 m.date.day).toList
  | .halfHourPadded => (Numeral.padded 2 (hourOfDial m.time.hour)).toList
  | .minutePadded => (Numeral.padded 2 m.time.minute).toList
  | .secondPadded => (Numeral.padded 2 m.time.second).toList
  | .yearOfCentury => (Numeral.padded 2 (m.date.year % 100)).toList
  | .hour => (Numeral.padded 2 m.time.hour).toList
  | .daySpaced =>
      let digits := Numeral.naturalChars m.date.day
      List.replicate (2 - digits.length) ' ' ++ digits
  | .month => Numeral.naturalChars m.date.month
  | .day => Numeral.naturalChars m.date.day
  | .halfHour => Numeral.naturalChars (hourOfDial m.time.hour)
  | .minute => Numeral.naturalChars m.time.minute
  | .second => Numeral.naturalChars m.time.second
  | .upperHalf => (if 12 ≤ m.time.hour then "PM" else "AM").toList
  | .lowerHalf => (if 12 ≤ m.time.hour then "pm" else "am").toList
  | .offset form => (renderOffset form m).toList
  | .universalOffset form =>
      if m.offset.tdiv microsPerSecond = 0 then ['Z'] else (renderOffset form m).toList
  | .fraction mark trimmed places => renderFraction mark trimmed places m.time.micro

def Token.render (m : Moment) : Token → List Char
  | .literal text => text
  | .chunk part => part.render m

end ReferenceLayout

/-- The moment written as a reference-time layout asks. -/
def Moment.format (m : Moment) (layout : String) : String :=
  String.ofList ((ReferenceLayout.tokens layout).flatMap (ReferenceLayout.Token.render m))

end LayoutBinding
