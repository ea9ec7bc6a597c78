import Mathlib.Data.List.Chain
import LayoutBinding.Proofs.Calendar.ReferenceMoment
import LayoutBinding.Traversal

/-!
# Cutting a layout

A layout is cut from the left.  Where several chunks can stand the longest one is taken,
although the chunks are tried in a fixed order, and a character is copied only where no chunk
can stand.  What has been cut off as a chunk is always rendered: its text alone tells which part
of a moment it asks for, and every moment has that part.
-/

namespace LayoutBinding

namespace ReferenceLayout

/-! ### Runs of a figure -/

/-- No digit stands behind a run that counts. -/
theorem head?_drop_runOf {figure : Char} {cs : List Char} (given : 0 < runOf figure cs) :
    (cs.drop (runOf figure cs)).head?.any Character.isDigit = false := by
  unfold runOf at given ⊢
  split
  next digit => simp [digit] at given
  next noDigit =>
    have behind : cs.drop (cs.takeWhile (· = figure)).length = cs.dropWhile (· = figure) := by
      have halves := List.takeWhile_append_dropWhile (p := (· = figure)) (l := cs)
      exact List.append_cancel_left ((List.prefix_iff_eq_append.mp
        (List.takeWhile_prefix (p := (· = figure)) (l := cs))).trans halves.symm)
    rw [behind]
    exact Bool.eq_false_iff.mpr noDigit

theorem runOf_replicate_append {figure : Char} (digit : Character.isDigit figure = true)
    (places : Nat) {after : List Char} (noDigit : after.head?.any Character.isDigit = false) :
    runOf figure (List.replicate places figure ++ after) = places := by
  have run (c : Char) (member : c ∈ List.replicate places figure) :
      decide (c = figure) = true :=
    decide_eq_true (List.eq_of_mem_replicate member)
  have ends : after.takeWhile (· = figure) = [] ∧ after.dropWhile (· = figure) = after := by
    cases after with
    | nil => exact ⟨rfl, rfl⟩
    | cons c after =>
        have other : ¬decide (c = figure) = true := by
          intro same
          obtain rfl := of_decide_eq_true same
          rw [List.head?_cons, Option.any_some, digit] at noDigit
          cases noDigit
        exact ⟨List.takeWhile_cons_of_neg other, List.dropWhile_cons_of_neg other⟩
  unfold runOf
  rw [List.dropWhile_append_of_pos run, List.takeWhile_append_of_pos run, ends.1, ends.2,
    noDigit, List.append_nil, List.length_replicate]
  rfl

namespace Chunk

/-! ### Where chunks stand -/

/-- The chunk can stand at the start of a layout.  A short name is no chunk before a small
letter, `_2` none in `_2006`, and a fraction is a run of one figure that no digit follows. -/
inductive Fits : Chunk → List Char → Prop where
  /-- A chunk with a fixed text. -/
  | fixed {part : Chunk} {after : List Char} (listed : part ∈ table)
      (word : part = .monthShort ∨ part = .weekdayShort → beforeSmallLetter after = false)
      (noYear : part = .daySpaced → ¬"006".toList <+: after) : Fits part (part.text ++ after)
  | fraction {mark figure : Char} {places : Nat} {after : List Char}
      (isMark : mark = '.' ∨ mark = ',') (isFigure : figure = '0' ∨ figure = '9')
      (given : 0 < places) (noDigit : after.head?.any Character.isDigit = false) :
      Fits (.fraction mark (figure = '9') places)
        (mark :: (List.replicate places figure ++ after))

/-- The chunk can stand at the start of a layout, and every other one that can is shorter. -/
def IsLongest (part : Chunk) (cs : List Char) : Prop :=
  part.Fits cs ∧
    ∀ other : Chunk, other.Fits cs → other = part ∨ other.text.length < part.text.length

theorem fits_of_fractionAt? {cs : List Char} {part : Chunk} (found : fractionAt? cs = some part) :
    part.Fits cs := by
  obtain ⟨mark, figure, rest, rfl, isMark, isFigure, given, rfl⟩ :=
    fractionAt?_eq_some_iff.mp found
  have fits := Fits.fraction isMark isFigure given (head?_drop_runOf given)
  rwa [replicate_runOf_append] at fits

theorem fractionAt?_fraction {mark figure : Char} {places : Nat} {after : List Char}
    (isMark : mark = '.' ∨ mark = ',') (isFigure : figure = '0' ∨ figure = '9')
    (given : 0 < places) (noDigit : after.head?.any Character.isDigit = false) :
    fractionAt? (mark :: (List.replicate places figure ++ after)) =
      some (.fraction mark (figure = '9') places) := by
  have digit : Character.isDigit figure = true := by
    rcases isFigure with rfl | rfl <;> decide
  have run := runOf_replicate_append digit places noDigit
  exact fractionAt?_eq_some_iff.mpr
    ⟨mark, figure, _, rfl, isMark, isFigure, by rwa [run], by rw [run]⟩

theorem year_not_at_start {part : Chunk} (listed : part ∈ table) {after : List Char}
    (noYear : part = .daySpaced → ¬"006".toList <+: after) :
    ¬"_2006".toList <+: part.text ++ after := by
  have onlyDay : ∀ part ∈ table, part.text.head? = some '_' → part = .daySpaced := by decide
  intro year
  obtain ⟨c, word, spelled⟩ := List.exists_cons_of_ne_nil part.text_ne_nil
  have first : part.text.head? = some '_' := by
    rw [spelled] at year ⊢
    have same := (List.cons_prefix_cons.mp year).1
    rw [← same]
    rfl
  obtain rfl := onlyDay part listed first
  exact noYear rfl ((List.prefix_append_right_inj "_2".toList).mp year)

/-- Where a chunk can stand, in terms of what is tried there. -/
theorem fits_iff {part : Chunk} {cs : List Char} :
    part.Fits cs ↔ ¬"_2006".toList <+: cs ∧
      (fractionAt? cs = some part ∨ part ∈ table ∧ startsWith part cs = true) := by
  constructor
  · rintro (⟨listed, word, noYear⟩ | ⟨isMark, isFigure, given, noDigit⟩)
    · refine ⟨year_not_at_start listed noYear, .inr ⟨listed, ?_⟩⟩
      rw [startsWith, Bool.and_eq_true, List.isPrefixOf_iff_prefix]
      refine ⟨List.prefix_append _ _, ?_⟩
      by_cases short : part = .monthShort ∨ part = .weekdayShort
      · have noLetter := word short
        rcases short with rfl | rfl <;> exact congrArg (! ·) noLetter
      · simp [not_or.mp short]
    · refine ⟨fun year => ?_, .inl (fractionAt?_fraction isMark isFigure given noDigit)⟩
      have same := (List.cons_prefix_cons.mp year).1
      rcases isMark with rfl | rfl <;> exact absurd same (by decide)
  · rintro ⟨noYear, fraction | ⟨listed, starts⟩⟩
    · exact fits_of_fractionAt? fraction
    · rw [startsWith, Bool.and_eq_true, List.isPrefixOf_iff_prefix] at starts
      obtain ⟨⟨after, rfl⟩, noLetter⟩ := starts
      refine .fixed listed (fun short => ?_) fun day year => noYear ?_
      · have behind : (part.text ++ after).drop 3 = after := by
          rcases short with rfl | rfl <;> rfl
        rw [behind] at noLetter
        rcases short with rfl | rfl <;> simpa using noLetter
      · subst day
        exact (List.prefix_append_right_inj "_2".toList).mpr year

/-! ### The chunk that is taken -/

/-- A chunk of the table comes before all chunks that its text starts with. -/
theorem table_longest_first :
    table.Pairwise fun earlier later => ¬earlier.text <+: later.text := by
  decide

theorem eq_or_length_lt_of_find? {cs : List Char} {part other : Chunk}
    (found : table.find? (startsWith · cs) = some part) (listed : other ∈ table)
    (starts : startsWith other cs = true) :
    other = part ∨ other.text.length < part.text.length := by
  obtain ⟨partStarts, earlier, later, split, refused⟩ := List.find?_eq_some_iff_append.mp found
  have ordered := table_longest_first
  rw [split] at listed ordered
  rcases List.mem_append.mp listed with before | behind
  · have refused := refused other before
    rw [starts] at refused
    cases refused
  · rcases List.mem_cons.mp behind with same | behind
    · exact .inl same
    · have notPrefix : ¬part.text <+: other.text :=
        (List.pairwise_cons.mp (List.pairwise_append.mp ordered).2.1).1 other behind
      simp only [startsWith, Bool.and_eq_true, List.isPrefixOf_iff_prefix] at partStarts starts
      rcases List.prefix_or_prefix_of_prefix partStarts.1 starts.1 with longer | shorter
      · exact absurd longer notPrefix
      · refine .inr (Nat.lt_of_le_of_ne shorter.length_le fun same => notPrefix ?_)
        exact shorter.eq_of_length same ▸ List.prefix_rfl

/-- No chunk with a fixed text starts where a fraction does. -/
theorem startsWith_eq_false_of_fractionAt? {cs : List Char} {part other : Chunk}
    (found : fractionAt? cs = some part) (listed : other ∈ table) :
    startsWith other cs = false := by
  have noMark : ∀ other ∈ table, other.text.head? ≠ some '.' ∧ other.text.head? ≠ some ',' := by
    decide
  obtain ⟨mark, figure, rest, rfl, isMark, -⟩ := fractionAt?_eq_some_iff.mp found
  refine Bool.eq_false_iff.mpr fun starts => ?_
  rw [startsWith, Bool.and_eq_true, List.isPrefixOf_iff_prefix] at starts
  obtain ⟨c, word, spelled⟩ := List.exists_cons_of_ne_nil other.text_ne_nil
  obtain ⟨noPoint, noComma⟩ := noMark other listed
  rw [spelled] at starts noPoint noComma
  obtain rfl := (List.cons_prefix_cons.mp starts.1).1
  rcases isMark with rfl | rfl
  · exact noPoint rfl
  · exact noComma rfl

theorem isLongest_of_at? {cs : List Char} {part : Chunk} (found : at? cs = some part) :
    part.IsLongest cs := by
  obtain ⟨noYear, fraction | ⟨noFraction, fixed⟩⟩ := at?_eq_some_iff.mp found
  · refine ⟨fits_of_fractionAt? fraction, fun other fits => .inl ?_⟩
    rcases (fits_iff.mp fits).2 with same | ⟨listed, starts⟩
    · exact Option.some.inj (same.symm.trans fraction)
    · rw [startsWith_eq_false_of_fractionAt? fraction listed] at starts
      cases starts
  · have starts : startsWith part cs = true := List.find?_some (p := (startsWith · cs)) fixed
    refine ⟨fits_iff.mpr ⟨noYear, .inr ⟨List.mem_of_find?_eq_some fixed, starts⟩⟩, ?_⟩
    intro other fits
    rcases (fits_iff.mp fits).2 with fraction | ⟨listed, starts⟩
    · rw [noFraction] at fraction
      cases fraction
    · exact eq_or_length_lt_of_find? fixed listed starts

theorem not_fits_of_at?_eq_none {cs : List Char} (missing : at? cs = none) (part : Chunk) :
    ¬part.Fits cs := by
  intro fits
  obtain ⟨noYear, tried⟩ := fits_iff.mp fits
  rcases at?_eq_none_iff.mp missing with year | ⟨noFraction, noFixed⟩
  · exact noYear year
  · rcases tried with fraction | ⟨listed, starts⟩
    · rw [noFraction] at fraction
      cases fraction
    · rw [noFixed part listed] at starts
      cases starts

end Chunk

/-! ### Pieces and tokens in their places -/

theorem Piece.text_eq : Piece.text = withChunks Chunk.text := by
  funext piece
  cases piece <;> rfl

/-- The piece is what is cut off in front of a text. -/
def Piece.Stands (after : List Char) : Piece → Prop
  | .char c => Chunk.at? (c :: after) = none
  | .chunk part => Chunk.at? (part.text ++ after) = some part

theorem stands_of_suffix_pieces {cs : List Char} {piece : Piece} {after : List Piece}
    (place : piece :: after <:+ pieces cs) : piece.Stands (after.flatMap Piece.text) := by
  have tiles (cs : List Char) : (pieces cs).flatMap Piece.text = cs := by
    rw [Piece.text_eq]
    exact (flatMap_withChunks_pieces cs).1
  fun_induction pieces cs with
  | case1 => cases List.suffix_nil.mp place
  | case2 c rest part found ih =>
      rcases List.suffix_cons_iff.mp place with here | later
      · obtain ⟨rfl, rfl⟩ := List.cons.inj here
        have whole := tiles (c :: rest)
        rw [pieces, found, List.flatMap_cons] at whole
        change part.text ++ _ = _ at whole
        change Chunk.at? (part.text ++ _) = some part
        rw [whole, found]
      · exact ih later
  | case3 c rest missing ih =>
      rcases List.suffix_cons_iff.mp place with here | later
      · obtain ⟨rfl, rfl⟩ := List.cons.inj here
        change Chunk.at? (c :: _) = none
        rw [tiles, missing]
      · exact ih later

namespace Token

def isLiteral : Token → Bool
  | .literal _ => true
  | .chunk _ => false

/-- The token is what is cut off in front of a text: the longest chunk, or one or more
characters where no chunk can stand. -/
def Stands (after : List Char) : Token → Prop
  | .literal text =>
      text ≠ [] ∧ ∀ c left, c :: left <:+ text → ∀ part : Chunk, ¬part.Fits (c :: left ++ after)
  | .chunk part => part.IsLongest (part.text ++ after)

theorem stands_literal_cons {c : Char} {text after : List Char}
    (first : ∀ part : Chunk, ¬part.Fits (c :: text ++ after))
    (others : ∀ d left, d :: left <:+ text → ∀ part : Chunk, ¬part.Fits (d :: left ++ after)) :
    (literal (c :: text)).Stands after := by
  refine ⟨List.cons_ne_nil c text, fun d left place => ?_⟩
  rcases List.suffix_cons_iff.mp place with here | later
  · obtain ⟨rfl, rfl⟩ := List.cons.inj here
    exact first
  · exact others d left later

end Token

theorem flatMap_text_group (parts : List Piece) :
    (group parts).flatMap Token.text = parts.flatMap Piece.text := by
  rw [Token.text_eq, Piece.text_eq, flatMap_withChunks_group]

theorem stands_of_suffix_group {parts : List Piece}
    (stands : ∀ piece after, piece :: after <:+ parts → piece.Stands (after.flatMap Piece.text))
    {token : Token} {after : List Token} (place : token :: after <:+ group parts) :
    token.Stands (after.flatMap Token.text) := by
  fun_induction group parts generalizing token after with
  | case1 => cases List.suffix_nil.mp place
  | case2 part rest ih =>
      rcases List.suffix_cons_iff.mp place with here | later
      · obtain ⟨rfl, rfl⟩ := List.cons.inj here
        rw [flatMap_text_group]
        exact Chunk.isLongest_of_at? (stands _ rest List.suffix_rfl)
      · exact ih (fun piece after place => stands piece after (place.trans (List.suffix_cons _ _)))
          later
  | case3 c rest text tokens grouped ih =>
      have others (token : Token) (after : List Token) (place : token :: after <:+ group rest) :=
        ih (fun piece after place => stands piece after (place.trans (List.suffix_cons _ _))) place
      rcases List.suffix_cons_iff.mp place with here | later
      · obtain ⟨rfl, rfl⟩ := List.cons.inj here
        have run := others (.literal text) after (grouped ▸ List.suffix_rfl)
        have whole := flatMap_text_group rest
        rw [grouped, List.flatMap_cons] at whole
        refine Token.stands_literal_cons (Chunk.not_fits_of_at?_eq_none ?_) run.2
        have first := stands (.char c) rest List.suffix_rfl
        rw [← whole] at first
        exact first
      · exact others token after (grouped ▸ later.trans (List.suffix_cons _ _))
  | case4 c rest notLiteral ih =>
      rcases List.suffix_cons_iff.mp place with here | later
      · obtain ⟨rfl, rfl⟩ := List.cons.inj here
        rw [flatMap_text_group]
        refine Token.stands_literal_cons (Chunk.not_fits_of_at?_eq_none ?_) ?_
        · exact stands (.char c) rest List.suffix_rfl
        · intro d left place
          cases List.suffix_nil.mp place
      · exact ih (fun piece after place => stands piece after (place.trans (List.suffix_cons _ _)))
          later

/-- Runs of characters are joined as far as they go. -/
theorem isChain_group (parts : List Piece) :
    (group parts).IsChain fun first second => ¬(first.isLiteral ∧ second.isLiteral) := by
  fun_induction group parts with
  | case1 => exact .nil
  | case2 part rest ih =>
      exact List.isChain_cons.mpr ⟨fun _ _ both => Bool.noConfusion both.1, ih⟩
  | case3 c rest text tokens grouped ih =>
      rw [grouped] at ih
      exact List.isChain_cons.mpr (List.isChain_cons.mp ih)
  | case4 c rest notLiteral ih =>
      refine List.isChain_cons.mpr ⟨fun second first both => ?_, ih⟩
      cases second with
      | chunk part => cases both.2
      | literal text =>
          obtain ⟨tokens, grouped⟩ := List.head?_eq_some_iff.mp first
          exact notLiteral text tokens grouped

/-! ### Chunks by their texts -/

/-- The form of an offset by its text; what is no other form has all its parts and colons. -/
def OffsetForm.named (text : String) : OffsetForm :=
  match text with
  | "07" => .hours
  | "0700" => .minutes
  | "07:00" => .colonMinutes
  | "070000" => .seconds
  | _ => .colonSeconds

namespace Chunk

/-- The chunk with a name or a number as its text. -/
def named? (text : String) : Option Chunk :=
  match text with
  | "January" => some .monthName
  | "Jan" => some .monthShort
  | "Monday" => some .weekdayName
  | "Mon" => some .weekdayShort
  | "MST" => some .zoneName
  | "2006" => some .year
  | "06" => some .yearOfCentury
  | "01" => some .monthPadded
  | "1" => some .month
  | "02" => some .dayPadded
  | "2" => some .day
  | "_2" => some .daySpaced
  | "002" => some .dayOfYear
  | "15" => some .hour
  | "03" => some .halfHourPadded
  | "3" => some .halfHour
  | "04" => some .minutePadded
  | "4" => some .minute
  | "05" => some .secondPadded
  | "5" => some .second
  | "PM" => some .upperHalf
  | "pm" => some .lowerHalf
  | _ => none

/-- The chunk that a text stands for, if it is the text of one.  Fractions and offsets are known
by their first character. -/
def read? : List Char → Option Chunk
  | [] => none
  | first :: rest =>
      if first = '.' ∨ first = ',' then
        rest.head?.map fun figure => .fraction first (figure = '9') rest.length
      else if first = '-' then
        some (.offset (.named (String.ofList rest)))
      else if first = 'Z' then
        some (.universalOffset (.named (String.ofList rest)))
      else
        named? (String.ofList (first :: rest))

/-- What a chunk becomes, if the names it takes from a list are there. -/
def render? (m : Moment) : Chunk → Option (List Char)
  | .monthName => monthNames[m.date.month - 1]?.map String.toList
  | .monthShort => monthNames[m.date.month - 1]?.map fun name => name.toList.take 3
  | .weekdayName => weekdayNames[m.date.weekday]?.map String.toList
  | .weekdayShort => weekdayNames[m.date.weekday]?.map fun name => name.toList.take 3
  | part => some (part.render m)

/-- What the text of a chunk becomes. -/
def renderText? (m : Moment) (text : List Char) : Option (List Char) :=
  read? text >>= render? m

theorem read?_text_of_fits {part : Chunk} {cs : List Char} (fits : part.Fits cs) :
    read? part.text = some part := by
  have fixed : ∀ part ∈ table, read? part.text = some part := by decide
  cases fits with
  | fixed listed word noYear => exact fixed part listed
  | @fraction mark figure places after isMark isFigure given noDigit =>
      obtain ⟨more, rfl⟩ := Nat.exists_eq_succ_of_ne_zero (Nat.ne_of_gt given)
      rw [text_fraction_of isFigure, read?, if_pos isMark]
      simp [List.replicate_succ]

theorem render?_eq (m : Moment) (part : Chunk) : part.render? m = some (part.render m) := by
  have month : m.date.month - 1 < monthNames.length := by
    have valid := m.date.valid.2.1
    change m.date.month - 1 < 12
    omega
  have weekday : m.date.weekday < weekdayNames.length := Nat.mod_lt _ (by decide)
  cases part <;> simp [render?, render, List.getD, month, weekday]

theorem renderText?_text_of_fits (m : Moment) {part : Chunk} {cs : List Char}
    (fits : part.Fits cs) : renderText? m part.text = some (part.render m) := by
  rw [renderText?, read?_text_of_fits fits]
  exact render?_eq m part

end Chunk

def Token.renderText? (m : Moment) : Token → Option (List Char)
  | .literal text => some text
  | .chunk part => Chunk.renderText? m part.text

/-! ### The cut of a layout -/

/-- A layout is cut into tokens without loss, and no two runs of copied characters are
neighbours.  Each chunk is the longest one that can stand in its place, and in the place of a
copied character none can.  Every chunk is rendered at every moment, and the texts of all tokens
are what the layout becomes. -/
theorem tokens_longest (layout : String) :
    (tokens layout).flatMap Token.text = layout.toList ∧
      ((tokens layout).IsChain fun first second => ¬(first.isLiteral ∧ second.isLiteral)) ∧
      (∀ text after, .literal text :: after <:+ tokens layout →
        text ≠ [] ∧ ∀ c left, c :: left <:+ text →
          ∀ part : Chunk, ¬part.Fits (c :: left ++ after.flatMap Token.text)) ∧
      (∀ part after, .chunk part :: after <:+ tokens layout →
        part.IsLongest (part.text ++ after.flatMap Token.text) ∧
          ∀ m, Chunk.renderText? m part.text = some (part.render m)) ∧
      ∀ m : Moment, ∃ texts, (tokens layout).mapM (Token.renderText? m) = some texts ∧
        m.format layout = String.ofList texts.flatten := by
  have stands (token : Token) {after : List Token} (place : token :: after <:+ tokens layout) :
      token.Stands (after.flatMap Token.text) :=
    stands_of_suffix_group (fun _ _ place => stands_of_suffix_pieces place) place
  have rendered {part : Chunk} {after : List Token}
      (place : .chunk part :: after <:+ tokens layout) (m : Moment) :
      Chunk.renderText? m part.text = some (part.render m) :=
    have longest : part.IsLongest (part.text ++ after.flatMap Token.text) :=
      stands (.chunk part) place
    Chunk.renderText?_text_of_fits m longest.1
  refine ⟨flatMap_text_tokens layout, isChain_group _,
    fun text after place => stands (.literal text) place,
    fun part after place => ⟨stands (.chunk part) place, rendered place⟩, fun m => ?_⟩
  refine ⟨(tokens layout).map (Token.render m), mapM_eq_pure_map fun token member => ?_, rfl⟩
  obtain ⟨before, after, split⟩ := List.append_of_mem member
  cases token with
  | literal text => rfl
  | chunk part => exact rendered (split ▸ List.suffix_append before _) m

-- `Jan` is no chunk at the start of a word, and a fraction is none before another digit.
example : tokens "Janet_2006 .001 Jan" =
    [.literal "Janet_".toList, .chunk .year, .literal " .0".toList, .chunk .monthPadded,
      .literal [' '], .chunk .monthShort] := by
  decide +kernel

end ReferenceLayout

end LayoutBinding
