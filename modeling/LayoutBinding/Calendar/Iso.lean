import LayoutBinding.Calendar.Moment

/-!
# Reading ISO 8601

A moment is read from a calendar date or a week date, in the form with or
without hyphens, any one character, and a time of day with or without colons
and offset.  The reader works on the bytes of the text, with a zero byte
standing for its end.
-/

namespace LayoutBinding

namespace Iso

def byte (c : Char) : UInt8 :=
  c.toNat.toUInt8

def bytes (cs : List Char) : List UInt8 :=
  cs.flatMap String.utf8EncodeChar

def digit? (b : UInt8) : Option Nat :=
  if 48 ≤ b.toNat ∧ b.toNat ≤ 57 then some (b.toNat - 48) else none

/-- Read a fixed number of digits, continuing from `value`. -/
def digitsFrom? (value : Nat) : Nat → List UInt8 → Option (Nat × List UInt8)
  | 0, bs => some (value, bs)
  | _ + 1, [] => none
  | count + 1, b :: bs =>
      match digit? b with
      | some digit => digitsFrom? (10 * value + digit) count bs
      | none => none

def digits? (count : Nat) (bs : List UInt8) : Option (Nat × List UInt8) :=
  digitsFrom? 0 count bs

def expect? (b : UInt8) : List UInt8 → Option (List UInt8)
  | [] => none
  | c :: bs => if c = b then some bs else none

def atEnd : List UInt8 → Bool
  | [] => true
  | b :: _ => b = 0

/-- The number of bytes of the date, found from the places of its marks.  In
`YYYYWww` followed by digits, the digits are pairs of a time unless their
number shows that the first one is a weekday. -/
def dateLength? (bs : List UInt8) : Option Nat :=
  let length := bs.length
  if length = 7 then
    some 7
  else if bs[4]? = some (byte '-') then
    if bs[5]? = some (byte 'W') then
      if bs[8]? = some (byte '-') then
        if length = 9 then
          none
        else if (bs[10]?.bind digit?).isSome then
          some 8
        else
          some 10
      else
        some 8
    else
      some 10
  else if bs[4]? = some (byte 'W') then
    let run := 7 + ((bs.drop 7).takeWhile fun b => (digit? b).isSome).length
    if run < 9 then
      some run
    else if run % 2 = 0 then
      some 7
    else
      some 8
  else
    some 8

def date? (length : Nat) (bs : List UInt8) : Option Date := do
  let (year, bs) ← digits? 4 bs
  let dashed := bs.head? = some (byte '-')
  let bs := if dashed then bs.drop 1 else bs
  if bs.head? = some (byte 'W') then
    let (week, bs) ← digits? 2 (bs.drop 1)
    if (if dashed then 8 else 7) < length then
      let bs ← if dashed then expect? (byte '-') bs else some bs
      let (weekday, _) ← digits? 1 bs
      Date.ofWeek? year week weekday
    else
      Date.ofWeek? year week 1
  else
    let (month, bs) ← digits? 2 bs
    let bs ← if dashed then expect? (byte '-') bs else some bs
    let (day, _) ← digits? 2 bs
    Date.of? year month day

/-- Hours, minutes, seconds and microseconds, not yet checked for range, and
whether the text ends after them. -/
structure Clock where
  hour : Nat
  minute : Nat
  second : Nat
  micro : Nat
  /-- Whether the text ends after them. -/
  complete : Bool

/-- Read the digits of a fraction of a second: at most six count, and further
ones are skipped. -/
def fraction? (bs : List UInt8) : Option (Nat × Bool) := do
  let count := min 6 bs.length
  let (value, rest) ← digits? count bs
  pure (value * Nat.pow 10 (6 - count), atEnd (rest.dropWhile fun b => (digit? b).isSome))

/-- What follows a pair of digits of a time of day. -/
inductive Follow where
  /-- Nothing, or one more byte; the flag tells whether the text ends. -/
  | finished (complete : Bool)
  | pair (bs : List UInt8)
  | fraction (bs : List UInt8)
  /-- Nothing that can follow. -/
  | wrong

/-- Decide what follows a pair of digits, in a time with or without colons. -/
def follow (colons : Bool) : List UInt8 → Follow
  | [] => .finished true
  | [b] => .finished (b = 0)
  | b :: bs =>
      if colons ∧ b = byte ':' then
        .pair bs
      else if b = byte '.' ∨ b = byte ',' then
        .fraction bs
      else if colons then
        .wrong
      else
        .pair (b :: bs)

/-- Read a time of day, an offset included.  The byte after the hour decides
whether colons are expected; after the seconds a fraction may also follow
without a mark. -/
def clock? (bs : List UInt8) : Option Clock := do
  let (hour, bs) ← digits? 2 bs
  let colons := bs.head? = some (byte ':')
  match follow colons bs with
  | .finished complete => some ⟨hour, 0, 0, 0, complete⟩
  | .wrong => none
  | .fraction bs => (fraction? bs).map fun (micro, complete) => ⟨hour, 0, 0, micro, complete⟩
  | .pair bs => do
      let (minute, bs) ← digits? 2 bs
      match follow colons bs with
      | .finished complete => some ⟨hour, minute, 0, 0, complete⟩
      | .wrong => none
      | .fraction bs =>
          (fraction? bs).map fun (micro, complete) => ⟨hour, minute, 0, micro, complete⟩
      | .pair bs => do
          let (second, bs) ← digits? 2 bs
          match follow colons bs with
          | .finished complete => some ⟨hour, minute, second, 0, complete⟩
          | .wrong => none
          | .fraction bs | .pair bs =>
              (fraction? bs).map fun (micro, complete) =>
                ⟨hour, minute, second, micro, complete⟩

def beginsOffset (b : UInt8) : Bool :=
  b = byte '+' || b = byte '-' || b = byte 'Z'

/-- Read an offset after a time of day.  An offset of no whole second is
universal time. -/
def zone? : List UInt8 → Option (Option Zone)
  | [] => some none
  | b :: bs =>
      if b = byte 'Z' then
        if atEnd bs then some (some .universal) else none
      else do
        let clock ← clock? bs
        if clock.complete then
          let seconds := clock.hour * 3600 + clock.minute * 60 + clock.second
          if seconds = 0 then
            some (some .universal)
          else
            let micros : Int := seconds * 1000000 + clock.micro
            let zone ← Zone.of? (if b = byte '-' then -micros else micros) none
            some (some zone)
        else
          none

/-- The number of bytes of the character that begins with the byte. -/
def width (b : UInt8) : Nat :=
  if b.toNat < 128 then
    1
  else if b.toNat / 16 = 14 then
    3
  else if b.toNat / 16 = 15 then
    4
  else
    2

/-- Read a time of day and an offset after a date. -/
def timeAndZone? (bs : List UInt8) : Option (TimeOfDay × Option Zone) := do
  let (before, after) := bs.span fun b => !beginsOffset b
  let clock ← clock? before
  if after = [] ∧ !clock.complete then
    none
  else
    let zone ← zone? after
    let time ← TimeOfDay.of? clock.hour clock.minute clock.second clock.micro
    pure (time, zone)

def moment? (bs : List UInt8) : Option Moment := do
  let length ← dateLength? bs
  let date ← date? length bs
  match bs.drop length with
  | [] => pure (.ofDate date)
  | b :: rest =>
      let (time, zone) ← timeAndZone? ((b :: rest).drop (width b))
      pure ⟨date, time, zone⟩

end Iso

def Moment.read? (s : String) : Option Moment :=
  Iso.moment? (Iso.bytes s.toList)

end LayoutBinding
