import LayoutBinding.Calendar.ReferenceLayout
import LayoutBinding.Page.FrontMatter
import LayoutBinding.Proofs.Calendar.IsoReading

/-!
# Timestamps

A moment that is written with the layout `2006-01-02T15:04:05.000000-07:00:00` is read back from
front matter as the same date, time of day and offset, and one without a zone from the layout
without the offset.
-/

namespace LayoutBinding

/-- The zone without the name given to it. -/
def Zone.unnamed (zone : Zone) : Zone :=
  ⟨zone.offset, none, zone.bounded⟩

namespace ReferenceLayout

/-! ### Layouts of timestamps -/

/-- A date and a time of day down to microseconds. -/
def localLayout : String :=
  "2006-01-02T15:04:05.000000"

/-- A date and a time of day down to microseconds, and the offset down to seconds. -/
def timestampLayout : String :=
  "2006-01-02T15:04:05.000000-07:00:00"

/-- The tokens of a date and a time of day. -/
def localTokens : List Token :=
  [.chunk .year, .literal ['-'], .chunk .monthPadded, .literal ['-'], .chunk .dayPadded,
    .literal ['T'], .chunk .hour, .literal [':'], .chunk .minutePadded, .literal [':'],
    .chunk .secondPadded, .chunk (.fraction '.' false 6)]

theorem tokens_localLayout : tokens localLayout = localTokens := by
  decide +kernel

theorem tokens_timestampLayout :
    tokens timestampLayout = localTokens ++ [.chunk (.offset .colonSeconds)] := by
  decide +kernel

theorem renderFraction_six {micro : Nat} (fits : micro < 10 ^ 6) :
    renderFraction '.' false 6 micro = '.' :: (Numeral.padded 6 micro).toList := by
  have length := Numeral.length_padded (by decide) fits
  rw [renderFraction]
  simp [List.take_left' length]

/-- Characters of ASCII that can be seen: they are one byte each, and no blanks. -/
def IsVisible (c : Char) : Prop :=
  32 < c.toNat ∧ c.toNat < 128

instance (c : Char) : Decidable (IsVisible c) := by
  unfold IsVisible
  infer_instance

theorem isVisible_of_mem_padded {width n : Nat} {c : Char}
    (member : c ∈ (Numeral.padded width n).toList) : IsVisible c := by
  have range := Numeral.toNat_of_isDigit (Numeral.isDigit_of_mem_padded member)
  exact ⟨by omega, by omega⟩

theorem isBlank_of_isVisible {c : Char} (visible : IsVisible c) :
    Character.isBlank c = false := by
  obtain ⟨lower, upper⟩ := visible
  refine Bool.eq_false_iff.mpr fun blank => ?_
  simp only [Character.isBlank, Character.listed, Character.blankRanges, List.any_cons,
    List.any_nil, Bool.or_eq_true, Bool.and_eq_true, decide_eq_true_eq, Bool.or_false] at blank
  omega

theorem trimBlanks_of_isVisible {cs : List Char} (visible : ∀ c ∈ cs, IsVisible c) :
    trimBlanks (String.ofList cs) = String.ofList cs := by
  rw [trimBlanks, String.toList_ofList, trim_eq_self]
  · exact fun c first => isBlank_of_isVisible (visible c (List.mem_of_mem_head? first))
  · exact fun c last => isBlank_of_isVisible (visible c (List.mem_of_mem_getLast? last))

def localText (d : Date) (t : TimeOfDay) : List Char :=
  (Numeral.padded 4 d.year).toList ++ '-' :: ((Numeral.padded 2 d.month).toList ++ '-' ::
    ((Numeral.padded 2 d.day).toList ++ 'T' :: ((Numeral.padded 2 t.hour).toList ++ ':' ::
      ((Numeral.padded 2 t.minute).toList ++ ':' :: ((Numeral.padded 2 t.second).toList ++ '.' ::
        (Numeral.padded 6 t.micro).toList)))))

def offsetText (seconds : Int) : List Char :=
  (if seconds < 0 then '-' else '+') :: ((Numeral.padded 2 (seconds.natAbs / 3600)).toList ++
    ':' :: ((Numeral.padded 2 (seconds.natAbs % 3600 / 60)).toList ++
      ':' :: (Numeral.padded 2 (seconds.natAbs % 60)).toList))

theorem isVisible_of_mem_localText {d : Date} {t : TimeOfDay} {c : Char}
    (member : c ∈ localText d t) : IsVisible c := by
  simp only [localText, List.mem_append, List.mem_cons] at member
  rcases member with year | rfl | month | rfl | day | rfl | hour | rfl | minute | rfl | second |
    rfl | micro
  · exact isVisible_of_mem_padded year
  · decide
  · exact isVisible_of_mem_padded month
  · decide
  · exact isVisible_of_mem_padded day
  · decide
  · exact isVisible_of_mem_padded hour
  · decide
  · exact isVisible_of_mem_padded minute
  · decide
  · exact isVisible_of_mem_padded second
  · decide
  · exact isVisible_of_mem_padded micro

theorem isVisible_of_mem_offsetText {seconds : Int} {c : Char}
    (member : c ∈ offsetText seconds) : IsVisible c := by
  simp only [offsetText, List.mem_append, List.mem_cons] at member
  rcases member with rfl | hour | rfl | minute | rfl | second
  · split <;> decide
  · exact isVisible_of_mem_padded hour
  · decide
  · exact isVisible_of_mem_padded minute
  · decide
  · exact isVisible_of_mem_padded second

theorem map_byte_localText (d : Date) (t : TimeOfDay) :
    (localText d t).map Iso.byte = Iso.dateBytes d ++ Iso.byte 'T' :: Iso.timeBytes t := by
  simp only [localText, Iso.dateBytes, Iso.timeBytes, Iso.clockBytes, Iso.figures, List.map_append,
    List.map_cons, List.append_assoc, List.cons_append]

theorem map_byte_offsetText (seconds : Int) :
    (offsetText seconds).map Iso.byte = Iso.offsetBytes seconds := by
  simp only [offsetText, Iso.offsetBytes, Iso.clockBytes, Iso.figures, List.map_append,
    List.map_cons]

theorem flatMap_render_localTokens (m : Moment) :
    localTokens.flatMap (Token.render m) = localText m.date m.time := by
  simp only [localTokens, List.flatMap_cons, List.flatMap_nil, Token.render, Chunk.render,
    renderFraction_six (Iso.time_lt m.time).2.2.2, localText, List.append_nil,
    List.cons_append, List.nil_append]

theorem toList_renderOffset (m : Moment) :
    (renderOffset .colonSeconds m).toList = offsetText (m.offset.tdiv microsPerSecond) := by
  have sign (seconds : Int) : (if seconds < 0 then "-" else "+").toList =
      [if seconds < 0 then '-' else '+'] := by
    split <;> rfl
  simp only [renderOffset, offsetText, OffsetForm.render, String.toList_append, sign]
  simp

theorem format_localLayout (m : Moment) :
    m.format localLayout = String.ofList (localText m.date m.time) := by
  rw [Moment.format, tokens_localLayout, flatMap_render_localTokens]

theorem format_timestampLayout (m : Moment) :
    m.format timestampLayout =
      String.ofList (localText m.date m.time ++ offsetText (m.offset.tdiv microsPerSecond)) := by
  rw [Moment.format, tokens_timestampLayout, List.flatMap_append, flatMap_render_localTokens]
  simp only [List.flatMap_cons, List.flatMap_nil, List.append_nil, Token.render, Chunk.render,
    toList_renderOffset]

/-- A text of a date and a time of day, and of an offset if there is one, is read as a moment. -/
theorem momentOf_localText (d : Date) (t : TimeOfDay) (written : List Char) {zone : Option Zone}
    (visible : ∀ c ∈ written, IsVisible c)
    (begins : ∀ b ∈ (written.map Iso.byte).head?, Iso.beginsOffset b = true)
    (read : Iso.zone? (written.map Iso.byte) = some zone) :
    Page.momentOf (.string (String.ofList (localText d t ++ written))) =
      .ok (.moment ⟨d, t, zone⟩) := by
  have allVisible : ∀ c ∈ localText d t ++ written, IsVisible c := by
    intro c member
    rcases List.mem_append.mp member with first | later
    · exact isVisible_of_mem_localText first
    · exact visible c later
  have bytes : Iso.bytes (localText d t ++ written) =
      Iso.dateBytes d ++ Iso.byte 'T' :: (Iso.timeBytes t ++ written.map Iso.byte) := by
    rw [Iso.bytes_eq_map fun c member => (allVisible c member).2, List.map_append,
      map_byte_localText, List.append_assoc, List.cons_append]
  have given : String.ofList (localText d t ++ written) ≠ "" := by
    intro same
    have none := congrArg String.toList same
    rw [String.toList_ofList] at none
    simp [localText] at none
  simp only [Page.momentOf, Value.string, Text.plain]
  rw [if_neg given, Page.momentIn, trimBlanks_of_isVisible allVisible, Moment.read?,
    String.toList_ofList, bytes, Iso.moment?_timeBytes d t begins read]

/-- A moment in a zone of whole seconds is read back from its timestamp, with the same offset
and without the name of the zone, and a moment without a zone is read back from its date and
time of day. -/
theorem momentOf_format (d : Date) (t : TimeOfDay) :
    (∀ zone : Zone, microsPerSecond ∣ zone.offset →
      Page.momentOf (.string (Moment.format ⟨d, t, some zone⟩ timestampLayout)) =
        .ok (.moment ⟨d, t, some zone.unnamed⟩)) ∧
      Page.momentOf (.string (Moment.format ⟨d, t, none⟩ localLayout)) =
        .ok (.moment ⟨d, t, none⟩) := by
  constructor
  · rintro zone ⟨seconds, offset⟩
    have whole : zone.offset.tdiv microsPerSecond = seconds := by
      rw [offset]
      exact Int.mul_tdiv_cancel_left seconds (by decide)
    have read := Iso.zone?_offsetBytes (offset.trans (Int.mul_comm _ _))
    rw [← map_byte_offsetText] at read
    rw [format_timestampLayout]
    change Page.momentOf (.string (String.ofList (localText d t ++
      offsetText (zone.offset.tdiv microsPerSecond)))) = _
    rw [whole]
    refine momentOf_localText d t _ (fun c => isVisible_of_mem_offsetText) ?_ read
    intro b first
    obtain rfl := Option.some.inj first
    split <;> rfl
  · have read := momentOf_localText d t [] nofun nofun rfl
    rw [List.append_nil] at read
    rw [format_localLayout]
    exact read

/-- The last second of the first day, half a minute behind universal time. -/
theorem momentOf_format_first_day :
    let date : Date := ⟨1, 1, 1, by decide⟩
    let time : TimeOfDay := ⟨23, 59, 59, 5, by decide⟩
    let zone : Zone := ⟨-30000000, some "Here", by decide⟩
    let written := Moment.format ⟨date, time, some zone⟩ timestampLayout
    written = "0001-01-01T23:59:59.000005-00:00:30" ∧
      microsPerSecond ∣ zone.offset ∧
      Page.momentOf (.string written) = .ok (.moment ⟨date, time, some zone.unnamed⟩) := by
  have whole : microsPerSecond ∣ -30000000 := by decide
  exact ⟨by decide +kernel, whole, (momentOf_format _ _).1 _ whole⟩

end ReferenceLayout

end LayoutBinding
