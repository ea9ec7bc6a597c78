import Mathlib.Algebra.Group.Nat.Defs
import Mathlib.Data.List.TakeDrop
import LayoutBinding.Calendar.Iso

/-!
# Reading back dates and times of day

Numbers in a fixed number of places are read back by the reader of ISO 8601, and so are the
dates, times of day and offsets that are made of them.
-/

namespace LayoutBinding

namespace Numeral

/-! ### Numbers in a fixed number of places -/

theorem toNat_of_isDigit {c : Char} (digit : c.isDigit = true) :
    48 ≤ c.toNat ∧ c.toNat ≤ 57 := by
  rw [Char.isDigit, Bool.and_eq_true, decide_eq_true_eq, decide_eq_true_eq] at digit
  exact ⟨UInt32.le_iff_toNat_le.mp digit.1, UInt32.le_iff_toNat_le.mp digit.2⟩

theorem toList_padded (width n : Nat) :
    (padded width n).toList =
      List.replicate (width - (naturalChars n).length) '0' ++ naturalChars n :=
  String.toList_ofList

theorem length_padded {width n : Nat} (positive : 0 < width) (fits : n < 10 ^ width) :
    (padded width n).toList.length = width := by
  have digits : (naturalChars n).length ≤ width :=
    (Nat.length_toDigits_le_iff (by decide) positive).mpr fits
  rw [toList_padded, List.length_append, List.length_replicate]
  omega

theorem isDigit_of_mem_padded {width n : Nat} {c : Char} (member : c ∈ (padded width n).toList) :
    c.isDigit = true := by
  rw [toList_padded, List.mem_append] at member
  rcases member with filled | written
  · rw [List.eq_of_mem_replicate filled]
    rfl
  · exact Nat.isDigit_of_mem_toDigits (by decide) (by decide) written

theorem ofDigitChars_padded (width n : Nat) :
    Nat.ofDigitChars 10 (padded width n).toList 0 = n := by
  have zeros (count : Nat) : Nat.ofDigitChars 10 (List.replicate count '0') 0 = 0 := by
    induction count with
    | zero => rfl
    | succ count ih => exact ih
  rw [toList_padded, Nat.ofDigitChars_append, zeros]
  exact Nat.ofDigitChars_toDigits (by decide) (by decide)

end Numeral

namespace Iso

theorem bytes_eq_map {cs : List Char} (ascii : ∀ c ∈ cs, c.toNat < 128) :
    bytes cs = cs.map byte := by
  induction cs with
  | nil => rfl
  | cons c cs ih =>
      obtain ⟨first, others⟩ := List.forall_mem_cons.mp ascii
      have single : String.utf8EncodeChar c = [byte c] :=
        if_pos (Nat.le_of_lt_succ first)
      rw [bytes, List.flatMap_cons, single]
      exact congrArg (byte c :: ·) (ih others)

theorem digit?_byte {c : Char} (digit : c.isDigit = true) :
    digit? (byte c) = some (c.toNat - 48) := by
  have range := Numeral.toNat_of_isDigit digit
  have value : (byte c).toNat = c.toNat := by
    change c.toNat % 256 = c.toNat
    omega
  rw [digit?, value, if_pos range]

theorem digitsFrom?_digits {cs : List Char} (digits : ∀ c ∈ cs, c.isDigit = true) (value : Nat)
    (rest : List UInt8) :
    digitsFrom? value cs.length (cs.map byte ++ rest) =
      some (Nat.ofDigitChars 10 cs value, rest) := by
  induction cs generalizing value with
  | nil => rfl
  | cons c cs ih =>
      obtain ⟨first, others⟩ := List.forall_mem_cons.mp digits
      rw [List.map_cons, List.cons_append, List.length_cons, digitsFrom?, digit?_byte first]
      exact ih others _

/-- The bytes of a number in a fixed number of places. -/
def figures (width n : Nat) : List UInt8 :=
  (Numeral.padded width n).toList.map byte

variable {width n : Nat}

theorem length_figures (positive : 0 < width) (fits : n < 10 ^ width) :
    (figures width n).length = width := by
  rw [figures, List.length_map, Numeral.length_padded positive fits]

theorem digit?_of_mem_figures {b : UInt8} (member : b ∈ figures width n) :
    (digit? b).isSome = true := by
  obtain ⟨c, written, rfl⟩ := List.mem_map.mp member
  rw [digit?_byte (Numeral.isDigit_of_mem_padded written)]
  rfl

theorem digits?_figures (positive : 0 < width) (fits : n < 10 ^ width) (rest : List UInt8) :
    digits? width (figures width n ++ rest) = some (n, rest) := by
  have written : ∀ c ∈ (Numeral.padded width n).toList, c.isDigit = true :=
    fun c => Numeral.isDigit_of_mem_padded
  have read := digitsFrom?_digits written 0 rest
  rw [Numeral.length_padded positive fits, Numeral.ofDigitChars_padded] at read
  exact read

theorem head?_figures_append_ne (positive : 0 < width) (fits : n < 10 ^ width)
    (rest : List UInt8) {b : UInt8} (other : digit? b = none) :
    (figures width n ++ rest).head? ≠ some b := by
  cases written : figures width n with
  | nil =>
      have length := length_figures positive fits
      rw [written] at length
      exact absurd length.symm (Nat.ne_of_gt positive)
  | cons first others =>
      have digit := digit?_of_mem_figures (written ▸ List.mem_cons_self (a := first))
      intro same
      obtain rfl := Option.some.inj same
      rw [other] at digit
      cases digit

/-! ### Dates -/

theorem date_lt (d : Date) : d.year < 10 ^ 4 ∧ d.month < 10 ^ 2 ∧ d.day < 10 ^ 2 := by
  have month : daysInMonth d.year d.month ≤ 31 := by
    unfold daysInMonth
    split
    · split <;> decide
    · split <;> decide
  have valid := d.valid
  unfold Date.IsValid at valid
  omega

def dateBytes (d : Date) : List UInt8 :=
  figures 4 d.year ++ byte '-' :: (figures 2 d.month ++ byte '-' :: figures 2 d.day)

theorem dateBytes_append (d : Date) (rest : List UInt8) :
    dateBytes d ++ rest =
      figures 4 d.year ++
        byte '-' :: (figures 2 d.month ++ byte '-' :: (figures 2 d.day ++ rest)) := by
  simp [dateBytes]

theorem length_dateBytes (d : Date) : (dateBytes d).length = 10 := by
  obtain ⟨year, month, day⟩ := date_lt d
  rw [dateBytes, List.length_append, List.length_cons, List.length_append, List.length_cons,
    length_figures (by decide) year, length_figures (by decide) month,
    length_figures (by decide) day]

theorem dateLength?_dateBytes (d : Date) (rest : List UInt8) :
    dateLength? (dateBytes d ++ rest) = some 10 := by
  obtain ⟨year, month, day⟩ := date_lt d
  have yearLength := length_figures (by decide) year
  have long : (dateBytes d ++ rest).length ≠ 7 := by
    rw [List.length_append, length_dateBytes]
    omega
  have hyphen : (dateBytes d ++ rest)[4]? = some (byte '-') := by
    rw [dateBytes_append, List.getElem?_append_right (Nat.le_of_eq yearLength), yearLength]
    rfl
  have noWeek : (dateBytes d ++ rest)[5]? ≠ some (byte 'W') := by
    rw [dateBytes_append, List.getElem?_append_right (by omega), yearLength,
      Nat.add_sub_cancel_left 4 1, List.getElem?_cons_succ, ← List.head?_eq_getElem?]
    exact head?_figures_append_ne (by decide) month _ (by decide)
  unfold dateLength?
  rw [if_neg long, if_pos hyphen, if_neg noWeek]

theorem date?_dateBytes (d : Date) (rest : List UInt8) :
    date? 10 (dateBytes d ++ rest) = some d := by
  obtain ⟨year, month, day⟩ := date_lt d
  have noWeek (after : List UInt8) := head?_figures_append_ne (by decide) month after
    (show digit? (byte 'W') = none by decide)
  rw [dateBytes_append, date?, digits?_figures (by decide) year]
  simp only [Option.bind_eq_bind, Option.bind_some, List.head?_cons, if_true,
    List.drop_succ_cons, List.drop_zero, if_neg (noWeek _)]
  rw [digits?_figures (by decide) month]
  simp only [Option.bind_some, expect?, if_true]
  rw [digits?_figures (by decide) day]
  exact d.of?_eq_some

/-! ### Times of day and offsets -/

def clockBytes (hour minute second : Nat) : List UInt8 :=
  figures 2 hour ++ byte ':' :: (figures 2 minute ++ byte ':' :: figures 2 second)

theorem clockBytes_append (hour minute second : Nat) (rest : List UInt8) :
    clockBytes hour minute second ++ rest =
      figures 2 hour ++
        byte ':' :: (figures 2 minute ++ byte ':' :: (figures 2 second ++ rest)) := by
  simp [clockBytes]

theorem follow_colon (b : UInt8) (rest : List UInt8) :
    follow true (byte ':' :: b :: rest) = .pair (b :: rest) := by
  simp [follow]

theorem exists_cons_of_figures (positive : 0 < width) (fits : n < 10 ^ width)
    (rest : List UInt8) : ∃ b others, figures width n ++ rest = b :: others := by
  apply List.exists_cons_of_ne_nil
  apply List.append_ne_nil_of_left_ne_nil
  apply List.ne_nil_of_length_pos
  rwa [length_figures positive fits]

/-- A time of day with what follows its seconds. -/
def clockEnding (hour minute second : Nat) : Follow → Option Clock
  | .finished complete => some ⟨hour, minute, second, 0, complete⟩
  | .wrong => none
  | .fraction bs | .pair bs =>
      (fraction? bs).map fun (micro, complete) => ⟨hour, minute, second, micro, complete⟩

theorem clock?_clockBytes {hour minute second : Nat} (hours : hour < 10 ^ 2)
    (minutes : minute < 10 ^ 2) (seconds : second < 10 ^ 2) (rest : List UInt8) :
    clock? (clockBytes hour minute second ++ rest) =
      clockEnding hour minute second (follow true rest) := by
  obtain ⟨b, others, minuteBytes⟩ := exists_cons_of_figures (by decide) minutes
    (byte ':' :: (figures 2 second ++ rest))
  obtain ⟨c, more, secondBytes⟩ := exists_cons_of_figures (by decide) seconds rest
  rw [clockBytes_append, clock?, digits?_figures (by decide) hours]
  simp only [Option.bind_eq_bind, Option.bind_some, List.head?_cons, decide_true]
  rw [minuteBytes, follow_colon, ← minuteBytes]
  simp only [digits?_figures (by decide) minutes, Option.bind_some]
  rw [secondBytes, follow_colon, ← secondBytes]
  simp only [digits?_figures (by decide) seconds, Option.bind_some]
  rfl

theorem fraction?_figures {micro : Nat} (fits : micro < 10 ^ 6) :
    fraction? (figures 6 micro) = some (micro, true) := by
  have read := digits?_figures (by decide) fits []
  rw [List.append_nil] at read
  rw [fraction?, length_figures (by decide) fits]
  simp [read, atEnd]

/-- The bytes of a time of day with six places of a second. -/
def timeBytes (t : TimeOfDay) : List UInt8 :=
  clockBytes t.hour t.minute t.second ++ byte '.' :: figures 6 t.micro

theorem time_lt (t : TimeOfDay) :
    t.hour < 10 ^ 2 ∧ t.minute < 10 ^ 2 ∧ t.second < 10 ^ 2 ∧ t.micro < 10 ^ 6 := by
  have valid := t.valid
  unfold TimeOfDay.IsValid at valid
  omega

theorem clock?_timeBytes (t : TimeOfDay) :
    clock? (timeBytes t) = some ⟨t.hour, t.minute, t.second, t.micro, true⟩ := by
  obtain ⟨hour, minute, second, micro⟩ := time_lt t
  obtain ⟨b, others, microBytes⟩ := exists_cons_of_figures (by decide) micro []
  rw [List.append_nil] at microBytes
  have point : follow true (byte '.' :: figures 6 t.micro) = .fraction (figures 6 t.micro) := by
    rw [microBytes]
    rfl
  rw [timeBytes, clock?_clockBytes hour minute second, point, clockEnding, fraction?_figures micro]
  rfl

/-- The bytes of an offset with hours, minutes and seconds. -/
def offsetBytes (seconds : Int) : List UInt8 :=
  byte (if seconds < 0 then '-' else '+') ::
    clockBytes (seconds.natAbs / 3600) (seconds.natAbs % 3600 / 60) (seconds.natAbs % 60)

theorem zone?_offsetBytes {zone : Zone} {seconds : Int}
    (offset : zone.offset = seconds * 1000000) :
    zone? (offsetBytes seconds) = some (some ⟨zone.offset, none, zone.bounded⟩) := by
  have bounded := zone.bounded
  simp only [microsPerDay] at bounded
  have hours : seconds.natAbs / 3600 < 10 ^ 2 := by omega
  have minutes : seconds.natAbs % 3600 / 60 < 10 ^ 2 := by omega
  have rest : seconds.natAbs % 60 < 10 ^ 2 := by omega
  have clock := clock?_clockBytes hours minutes rest []
  rw [List.append_nil] at clock
  have noZ : byte (if seconds < 0 then '-' else '+') ≠ byte 'Z' := by
    split <;> decide
  have sum : seconds.natAbs / 3600 * 3600 + seconds.natAbs % 3600 / 60 * 60 +
      seconds.natAbs % 60 = seconds.natAbs := by
    omega
  rw [offsetBytes, zone?, if_neg noZ, clock]
  simp only [follow, clockEnding, Option.bind_eq_bind, Option.bind_some, if_true, sum]
  have minus : (byte (if seconds < 0 then '-' else '+') = byte '-') ↔ seconds < 0 := by
    by_cases negative : seconds < 0
    · simp [negative]
    · simp only [negative, if_false, iff_false]
      decide
  by_cases none : seconds.natAbs = 0
  · have zero : zone.offset = 0 := by omega
    rw [if_pos none]
    simp [Zone.universal, zero]
  · have micros : (if byte (if seconds < 0 then '-' else '+') = byte '-' then
        -((seconds.natAbs : Int) * 1000000 + (0 : Nat)) else
        (seconds.natAbs : Int) * 1000000 + (0 : Nat)) = zone.offset := by
      simp only [minus]
      split <;> omega
    rw [if_neg none, micros, Zone.of?, dif_pos zone.bounded]
    rfl

theorem not_beginsOffset_of_mem_timeBytes {t : TimeOfDay} {b : UInt8} (member : b ∈ timeBytes t) :
    beginsOffset b = false := by
  have digits {width n : Nat} (member : b ∈ figures width n) : beginsOffset b = false := by
    have digit := digit?_of_mem_figures member
    refine Bool.eq_false_iff.mpr fun begins => ?_
    simp only [beginsOffset, Bool.or_eq_true, decide_eq_true_eq] at begins
    rcases begins with (rfl | rfl) | rfl <;> cases digit
  simp only [timeBytes, clockBytes, List.mem_append, List.mem_cons] at member
  rcases member with (hour | rfl | minute | rfl | second) | rfl | micro
  · exact digits hour
  · rfl
  · exact digits minute
  · rfl
  · exact digits second
  · rfl
  · exact digits micro

/-- A time of day and what follows it, which begins an offset unless it is empty. -/
theorem timeAndZone?_timeBytes (t : TimeOfDay) {after : List UInt8} {zone : Option Zone}
    (begins : ∀ b ∈ after.head?, beginsOffset b = true) (read : zone? after = some zone) :
    timeAndZone? (timeBytes t ++ after) = some (t, zone) := by
  have before (b : UInt8) (member : b ∈ timeBytes t) : (!beginsOffset b) = true := by
    rw [not_beginsOffset_of_mem_timeBytes member]
    rfl
  have parts : (timeBytes t ++ after).span (fun b => !beginsOffset b) = (timeBytes t, after) := by
    rw [List.span_eq_takeWhile_dropWhile, List.takeWhile_append_of_pos before,
      List.dropWhile_append_of_pos before]
    cases after with
    | nil => simp
    | cons b after => simp [begins b rfl]
  rw [timeAndZone?, parts]
  simp only [clock?_timeBytes, read, Option.bind_eq_bind, Option.bind_some, TimeOfDay.of?,
    dif_pos t.valid]
  simp

theorem moment?_timeBytes (d : Date) (t : TimeOfDay) {after : List UInt8} {zone : Option Zone}
    (begins : ∀ b ∈ after.head?, beginsOffset b = true) (read : zone? after = some zone) :
    moment? (dateBytes d ++ byte 'T' :: (timeBytes t ++ after)) = some ⟨d, t, zone⟩ := by
  have behind : (dateBytes d ++ byte 'T' :: (timeBytes t ++ after)).drop 10 =
      byte 'T' :: (timeBytes t ++ after) := by
    rw [← length_dateBytes d, List.drop_left]
  have one : width (byte 'T') = 1 := by decide
  rw [moment?, dateLength?_dateBytes]
  simp only [Option.bind_eq_bind, Option.bind_some, date?_dateBytes, behind, one,
    List.drop_succ_cons, List.drop_zero, timeAndZone?_timeBytes t begins read]
  rfl

end Iso

end LayoutBinding
