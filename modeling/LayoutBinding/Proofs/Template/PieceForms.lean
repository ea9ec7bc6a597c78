import LayoutBinding.Proofs.Template.TagReading
import LayoutBinding.Template.Events

/-!
# Forms of pieces

A template is read in steps.  A step takes some characters as an event, or as none, and
what it takes has one of a few forms.  What follows a piece matters for references, which
take a semicolon if there is one, and at the end of the template.
-/

namespace LayoutBinding

/-- Characters of a template with the event that they are read as, if there is one. -/
structure Piece where
  event : Option Event
  written : List Char

/-- A piece looks like what it is read as, when `next` follows it. -/
inductive Piece.Form : Piece → List Char → Prop
  /-- A start tag keeps its text. -/
  | startTag {tag : StartTag} {place : Place} {next : List Char} (given : tag.raw ≠ "")
      (name : '>' ∉ tag.writtenName.toList) :
      Form ⟨some (.startTag tag place), tag.raw.toList⟩ next
  | data {text next : List Char} (given : text ≠ []) :
      Form ⟨some (.data (String.ofList text)), text⟩ next
  /-- A reference by name, whose semicolon may be left out. -/
  | nameReference {name stop next : List Char} (plain : ';' ∉ name)
      (stops : stop = [';'] ∨ stop = [] ∧ next.head? ≠ some ';') :
      Form ⟨some (.nameReference (String.ofList name)), '&' :: (name ++ stop)⟩ next
  /-- A reference by number, whose semicolon may be left out. -/
  | numberReference {digits stop next : List Char} (plain : ';' ∉ digits)
      (stops : stop = [';'] ∨ stop = [] ∧ next.head? ≠ some ';') :
      Form ⟨some (.numberReference (String.ofList digits)), '&' :: '#' :: (digits ++ stop)⟩ next
  | endTag {name : String} {inside next : List Char} (plain : '>' ∉ name.toList)
      (first : '>' ∉ inside) :
      Form ⟨some (.endTag name), '<' :: '/' :: (inside ++ ['>'])⟩ next
  /-- A comment, in which blanks may precede the bracket. -/
  | comment {text filler next : List Char} (blank : '>' ∉ filler) :
      Form ⟨some (.comment (String.ofList text)),
        '<' :: '!' :: '-' :: '-' :: (text ++ '-' :: '-' :: (filler ++ ['>']))⟩ next
  /-- What is taken for a comment. -/
  | bogus {mark : Char} {text next : List Char} (first : '>' ∉ text) :
      Form ⟨some (.comment (String.ofList text)), '<' :: mark :: (text ++ ['>'])⟩ next
  | declaration {text next : List Char} :
      Form ⟨some (.declaration (String.ofList text)), '<' :: '!' :: (text ++ ['>'])⟩ next
  | instruction {text next : List Char} :
      Form ⟨some (.instruction (String.ofList text)), '<' :: '?' :: (text ++ ['>'])⟩ next
  /-- A marked section, in which a second square bracket and blanks may precede the
  bracket. -/
  | markedSection {text filler next : List Char} (other : '>' ∉ filler) :
      Form ⟨some (.section (String.ofList text)),
        '<' :: '!' :: '[' :: (text ++ ']' :: (filler ++ ['>']))⟩ next
  /-- An end tag without a name is nothing. -/
  | namelessEnd {next : List Char} : Form ⟨none, ['<', '/', '>']⟩ next
  /-- An ampersand in front of the last letter is nothing. -/
  | ampersand {c : Char} (letter : c.isAlpha) : Form ⟨none, ['&']⟩ [c]
  /-- What a raw element without an end tag holds at the end is nothing. -/
  | lost {text : List Char} (given : text ≠ []) : Form ⟨none, text⟩ []

namespace Events

/-! ### Splitting -/

/-- Where a splitting succeeds, the end that was found stands before the rest. -/
theorem exists_of_splitAtFirst {close? : List Char → Option (List Char)}
    {IsEnd : List Char → Prop}
    (ends : ∀ cs rest, close? cs = some rest → ∃ stop, cs = stop ++ rest ∧ IsEnd stop)
    {cs before rest : List Char} (split : splitAtFirst close? cs = some (before, rest)) :
    ∃ stop, cs = before ++ (stop ++ rest) ∧ IsEnd stop := by
  induction cs generalizing before with
  | nil =>
      obtain ⟨_, closes, same⟩ := Option.map_eq_some_iff.mp split
      cases same
      exact ends [] rest closes
  | cons c cs ih =>
      rw [splitAtFirst] at split
      split at split
      next found closes =>
        cases split
        exact ends (c :: cs) rest closes
      next =>
        obtain ⟨⟨front, found⟩, inside, same⟩ := Option.map_eq_some_iff.mp split
        cases same
        obtain ⟨stop, rfl, isEnd⟩ := ih inside
        exact ⟨stop, rfl, isEnd⟩

theorem bracket_notMem_blanks (cs : List Char) : '>' ∉ cs.takeWhile Character.isBlank :=
  fun member => absurd (List.mem_takeWhile_imp member) (by decide)

theorem exists_of_bracket? {cs rest : List Char} (closes : bracket? cs = some rest) :
    ∃ blanks, cs = blanks ++ '>' :: rest ∧ '>' ∉ blanks := by
  unfold bracket? at closes
  split at closes
  next other starts =>
    cases closes
    refine ⟨cs.takeWhile Character.isBlank, ?_, bracket_notMem_blanks cs⟩
    rw [← starts, List.takeWhile_append_dropWhile]
  next => cases closes

theorem of_splitAtFirst_angle? {cs before rest : List Char}
    (split : splitAtFirst angle? cs = some (before, rest)) :
    cs = before ++ '>' :: rest ∧ '>' ∉ before := by
  induction cs generalizing before with
  | nil => cases split
  | cons c cs ih =>
      rw [splitAtFirst] at split
      split at split
      next found closes =>
        cases split
        unfold angle? at closes
        split at closes
        next same =>
          cases closes
          exact ⟨same, List.not_mem_nil⟩
        next => cases closes
      next other =>
        obtain ⟨⟨front, found⟩, inside, same⟩ := Option.map_eq_some_iff.mp split
        cases same
        obtain ⟨rfl, first⟩ := ih inside
        refine ⟨rfl, fun member => ?_⟩
        rcases List.mem_cons.mp member with rfl | member
        · cases other
        · exact first member

/-- The ends of comments and sections are brackets with a filler before them. -/
theorem exists_of_commentEnd? {cs rest : List Char} (closes : commentEnd? cs = some rest) :
    ∃ stop, cs = stop ++ rest ∧
      ∃ filler, stop = '-' :: '-' :: (filler ++ ['>']) ∧ '>' ∉ filler := by
  unfold commentEnd? at closes
  split at closes
  next inside =>
    obtain ⟨filler, rfl, blank⟩ := exists_of_bracket? closes
    exact ⟨_, by simp, filler, rfl, blank⟩
  next => cases closes

theorem exists_of_conditionEnd? {cs rest : List Char} (closes : conditionEnd? cs = some rest) :
    ∃ stop, cs = stop ++ rest ∧
      ∃ filler, stop = ']' :: (filler ++ ['>']) ∧ '>' ∉ filler := by
  unfold conditionEnd? at closes
  split at closes
  next inside =>
    obtain ⟨filler, rfl, blank⟩ := exists_of_bracket? closes
    exact ⟨_, by simp, filler, rfl, blank⟩
  next => cases closes

theorem exists_of_sectionEnd? {cs rest : List Char} (closes : sectionEnd? cs = some rest) :
    ∃ stop, cs = stop ++ rest ∧
      ∃ filler, stop = ']' :: (filler ++ ['>']) ∧ '>' ∉ filler := by
  unfold sectionEnd? at closes
  split at closes
  next inside =>
    obtain ⟨stop, split, filler, rfl, blank⟩ := exists_of_conditionEnd? closes
    have whole : inside =
        inside.takeWhile Character.isBlank ++ (']' :: (filler ++ ['>']) ++ rest) := by
      rw [← split, List.takeWhile_append_dropWhile]
    refine ⟨']' :: (inside.takeWhile Character.isBlank ++ ']' :: (filler ++ ['>'])), ?_,
      inside.takeWhile Character.isBlank ++ ']' :: filler, by simp, ?_⟩
    · exact (congrArg (']' :: ·) whole).trans (by simp)
    · simp [bracket_notMem_blanks, blank]
  next => cases closes

/-! ### What is taken -/

/-- So many characters of a text are a piece. -/
def Takes (cs : List Char) (event : Option Event) (length : Nat) : Prop :=
  1 ≤ length ∧ Piece.Form ⟨event, cs.take length⟩ (cs.drop length)

theorem takes_of_append {written rest : List Char} {event : Option Event} (given : written ≠ [])
    (form : Piece.Form ⟨event, written⟩ rest) : Takes (written ++ rest) event written.length := by
  refine ⟨List.length_pos_iff.mpr given, ?_⟩
  rwa [List.take_left, List.drop_left]

theorem takes_of_append_sub {written rest : List Char} {event : Option Event}
    (given : written ≠ []) (form : Piece.Form ⟨event, written⟩ rest) :
    Takes (written ++ rest) event ((written ++ rest).length - rest.length) := by
  have length : (written ++ rest).length - rest.length = written.length := by
    rw [List.length_append, Nat.add_sub_cancel]
  rw [length]
  exact takes_of_append given form

theorem takes_text {cs : List Char} {length : Nat} (positive : 1 ≤ length) (given : cs ≠ []) :
    Takes cs (text (cs.take length)) length := by
  refine ⟨positive, .data ?_⟩
  rw [Ne, List.take_eq_nil_iff]
  rintro (rfl | rfl)
  · exact absurd positive (by decide)
  · exact given rfl

theorem Takes.drop_tail {c : Char} {tail : List Char} {event : Option Event} {length : Nat}
    (taken : Takes (c :: tail) event length) :
    tail.drop (length - 1) = (c :: tail).drop length := by
  obtain ⟨smaller, rfl⟩ := Nat.exists_eq_succ_of_ne_zero (Nat.ne_of_gt taken.1)
  rfl

/-- A construct that is complete is a piece. -/
def Construct.IsSound (cs : List Char) : Construct → Prop
  | .complete event length => Takes cs event length
  | _ => True

/-- A construct with an end is a piece if what is found in front of the end makes one. -/
theorem isSound_delimited {event : String → Event} {skip : Nat}
    {close? : List Char → Option (List Char)} (front : List Char) {body : List Char}
    (given : front ≠ []) (within : skip ≤ front.length)
    (forms : ∀ before rest, splitAtFirst close? body = some (before, rest) →
      ∃ stop, body = before ++ (stop ++ rest) ∧
        Piece.Form ⟨some (event (String.ofList (front.drop skip ++ before))),
          front ++ (before ++ stop)⟩ rest) :
    (delimited event skip close? (front ++ body) front.length).IsSound (front ++ body) := by
  unfold delimited
  rw [List.drop_left]
  split
  next before rest split =>
    obtain ⟨stop, same, form⟩ := forms before rest split
    have inside : ((front ++ body).drop skip).take (front.length - skip) = front.drop skip := by
      rw [List.take_drop, Nat.add_sub_cancel' within, List.take_left]
    have whole : front ++ body = (front ++ (before ++ stop)) ++ rest := by
      simp [same]
    rw [inside, whole]
    exact takes_of_append_sub (by simp [given]) form
  next => trivial

theorem isSound_bogus (mark : Char) (body : List Char) :
    (delimited .comment 2 angle? ('<' :: mark :: body) 2).IsSound ('<' :: mark :: body) := by
  refine isSound_delimited ['<', mark] (by simp) (by simp) fun before rest split => ?_
  obtain ⟨same, first⟩ := of_splitAtFirst_angle? split
  exact ⟨['>'], same, .bogus first⟩

theorem isSound_instruction (body : List Char) :
    (delimited .instruction 2 angle? ('<' :: '?' :: body) 2).IsSound ('<' :: '?' :: body) := by
  refine isSound_delimited ['<', '?'] (by simp) (by simp) fun before rest split => ?_
  exact ⟨['>'], (of_splitAtFirst_angle? split).1, .instruction⟩

theorem isSound_comment (body : List Char) :
    (delimited .comment 4 commentEnd? ('<' :: '!' :: '-' :: '-' :: body) 4).IsSound
      ('<' :: '!' :: '-' :: '-' :: body) := by
  refine isSound_delimited ['<', '!', '-', '-'] (by simp) (by simp) fun before rest split => ?_
  obtain ⟨_, same, filler, rfl, other⟩ :=
    exists_of_splitAtFirst (fun _ _ => exists_of_commentEnd?) split
  exact ⟨_, same, .comment other⟩

theorem isSound_section {close? : List Char → Option (List Char)}
    (ends : ∀ cs rest, close? cs = some rest →
      ∃ stop, cs = stop ++ rest ∧ ∃ filler, stop = ']' :: (filler ++ ['>']) ∧ '>' ∉ filler)
    (body : List Char) :
    (delimited .section 3 close? ('<' :: '!' :: '[' :: body) 3).IsSound
      ('<' :: '!' :: '[' :: body) := by
  refine isSound_delimited ['<', '!', '['] (by simp) (by simp) fun before rest split => ?_
  obtain ⟨_, same, filler, rfl, other⟩ := exists_of_splitAtFirst ends split
  exact ⟨_, same, .markedSection other⟩

theorem isSound_markedSection (body : List Char) :
    (markedSection ('<' :: '!' :: '[' :: body)).IsSound ('<' :: '!' :: '[' :: body) := by
  unfold markedSection
  split
  · trivial
  next c rest starts =>
    split
    · dsimp only
      split
      · trivial
      · split
        · exact isSound_section (fun _ _ => exists_of_sectionEnd?) body
        · split
          · exact isSound_section (fun _ _ => exists_of_conditionEnd?) body
          · trivial
    · trivial

theorem isSound_doctype (word body : List Char) (length : word.length = 7) :
    (delimited .declaration 2 angle? ('<' :: '!' :: (word ++ body)) 9).IsSound
      ('<' :: '!' :: (word ++ body)) := by
  have searched : 9 = ('<' :: '!' :: word).length := by simp [length]
  rw [searched]
  refine isSound_delimited ('<' :: '!' :: word) (by simp) (by simp) fun before rest split => ?_
  refine ⟨['>'], (of_splitAtFirst_angle? split).1, ?_⟩
  have form : Piece.Form ⟨some (.declaration (String.ofList (word ++ before))),
      '<' :: '!' :: ((word ++ before) ++ ['>'])⟩ rest := .declaration
  rwa [List.append_assoc] at form

theorem isSound_declaration (body : List Char) :
    (declaration ('<' :: '!' :: body)).IsSound ('<' :: '!' :: body) := by
  unfold declaration
  split
  next isSection =>
    obtain ⟨inside, rfl⟩ : ∃ inside, body = '[' :: inside := by
      obtain ⟨inside, same⟩ := List.isPrefixOf_iff_prefix.mp isSection
      exact ⟨inside, (List.cons.inj (List.cons.inj same).2).2.symm⟩
    exact isSound_markedSection inside
  next =>
    split
    next isDoctype =>
      have length : (body.take 7).length = 7 := by
        have same := congrArg List.length (beq_iff_eq.mp isDoctype)
        rw [List.length_map] at same
        exact Nat.succ.inj (Nat.succ.inj same)
      have sound := isSound_doctype (body.take 7) (body.drop 7) length
      rwa [List.take_append_drop] at sound
    next => exact isSound_bogus '!' body

theorem bracket_notMem_of_plainEndName? {cs : List Char} {name : String}
    (found : plainEndName? cs = some name) : '>' ∉ name.toList := by
  unfold plainEndName? at found
  split at found
  next c rest _ =>
    split at found
    next letter =>
      split at found
      · cases found
        intro member
        rw [String.toList_ofList] at member
        obtain ⟨other, among, lower⟩ := List.mem_map.mp member
        rw [Character.toLower_eq_iff (by decide)] at lower
        rw [lower] at among
        rcases List.mem_cons.mp among with same | among
        · rw [← same] at letter
          cases letter
        · exact absurd (List.mem_takeWhile_imp among) (by decide)
      · cases found
    next => cases found
  next => cases found

theorem isSound_endTag (body : List Char) :
    (endTag ('<' :: '/' :: body)).IsSound ('<' :: '/' :: body) := by
  unfold endTag
  split
  · trivial
  next before rest split =>
    obtain ⟨inside, rfl, first⟩ : ∃ inside, body = inside ++ '>' :: rest ∧ '>' ∉ inside := by
      obtain ⟨same, first⟩ := of_splitAtFirst_angle? split
      cases before with
      | nil => cases (List.cons.inj same).1
      | cons c inside =>
          obtain ⟨-, same⟩ := List.cons.inj same
          exact ⟨inside, same, fun member => first (List.mem_cons_of_mem c member)⟩
    have taken {name : String} (plain : '>' ∉ name.toList) :
        Takes (('<' :: '/' :: (inside ++ ['>'])) ++ rest) (some (.endTag name))
          ((('<' :: '/' :: (inside ++ ['>'])) ++ rest).length - rest.length) :=
      takes_of_append_sub (by simp) (.endTag plain first)
    have whole : '<' :: '/' :: (inside ++ '>' :: rest) =
        ('<' :: '/' :: (inside ++ ['>'])) ++ rest := by simp
    rw [whole]
    dsimp only
    split
    next name found => exact taken (bracket_notMem_of_plainEndName? found)
    next =>
      split
      next c more starts =>
        split
        next letter =>
          refine taken (StartTag.bracket_notMem_lowered fun member => ?_)
          rcases List.mem_cons.mp member with same | member
          · rw [← same] at letter
            cases letter
          · exact StartTag.bracket_notMem_name more member
        next =>
          split
          next nameless =>
            obtain rfl : inside = [] := by
              cases inside with
              | nil => rfl
              | cons x inside =>
                  obtain ⟨same, -⟩ := List.cons.inj starts
                  exact absurd (same.trans nameless ▸ List.mem_cons_self) first
            exact takes_of_append_sub (by simp) .namelessEnd
          next =>
            rw [← whole]
            exact isSound_bogus '/' _
      next => trivial

theorem isSound_startTag {place : Place} (c : Char) (body : List Char) :
    Construct.IsSound ('<' :: c :: body) <|
      match StartTag.read ('<' :: c :: body) with
      | .incomplete => .incomplete
      | .text length => .complete (text (('<' :: c :: body).take length)) length
      | .tag tag => .complete (some (.startTag tag place)) tag.raw.length
      | .tooLong => .bad .numberTooLong := by
  split
  next => trivial
  next length found => exact takes_text (StartTag.pos_of_read found) (by simp)
  next tag found =>
    obtain ⟨raw, rest, same, rawEq, given, name⟩ := StartTag.exists_of_read found
    rw [same]
    have length : tag.raw.length = raw.length := by rw [rawEq, String.length_ofList]
    have form : Piece.Form ⟨some (.startTag tag place), tag.raw.toList⟩ rest := by
      refine .startTag (fun empty => given ?_) name
      have back := congrArg String.toList (rawEq.symm.trans empty)
      rwa [String.toList_ofList] at back
    rw [rawEq, String.toList_ofList] at form
    rw [Construct.IsSound, length]
    exact takes_of_append given form
  next => trivial

/-- What stands at an angle bracket is a piece, if it is complete. -/
theorem isSound_angleConstruct {place : Place} {cs : List Char} {construct : Construct}
    (stands : angleConstruct place cs = some construct) (starts : cs.head? = some '<') :
    construct.IsSound cs := by
  unfold angleConstruct at stands
  split at stands
  next other c body =>
    obtain rfl : other = '<' := Option.some.inj starts
    split at stands
    · cases stands
      exact isSound_startTag c body
    · split at stands
      next slash =>
        cases stands
        rw [slash]
        exact isSound_endTag body
      next =>
        split at stands
        next isComment =>
          cases stands
          obtain ⟨inside, same⟩ := List.isPrefixOf_iff_prefix.mp isComment
          rw [← same]
          exact isSound_comment inside
        next =>
          split at stands
          next mark =>
            cases stands
            rw [mark]
            exact isSound_instruction body
          next =>
            split at stands
            next mark =>
              cases stands
              rw [mark]
              exact isSound_declaration body
            next => cases stands
  next => cases stands

/-- What a move takes is a piece. -/
def Move.IsSound (cs : List Char) : Move → Prop
  | .advance event length => Takes cs event length
  | .halt event length => length = 0 ∧ event = none ∨ Takes cs event length
  | .fail _ => True

theorem one_le_textLength (cs : List Char) : 1 ≤ textLength cs := by
  unfold textLength
  split
  · omega
  · dsimp only
    split <;> omega

theorem isSound_atAngle (final : Bool) (place : Place) {cs : List Char}
    (starts : cs.head? = some '<') : (atAngle final place cs).IsSound cs := by
  obtain ⟨body, rfl⟩ := List.head?_eq_some_iff.mp starts
  unfold atAngle
  split
  next event length stands => exact isSound_angleConstruct stands starts
  next => trivial
  next =>
    split
    · exact takes_text (one_le_textLength _) (by simp)
    · exact .inl ⟨rfl, rfl⟩
  next =>
    split
    · change Takes _ (text (('<' :: body).take 1)) 1
      exact takes_text (Nat.le_refl 1) (by simp)
    · exact .inl ⟨rfl, rfl⟩

theorem takes_reference {event : Option Event} (front name after : List Char) (given : front ≠ [])
    (form : ∀ stop next, stop = [';'] ∨ stop = [] ∧ next.head? ≠ some ';' →
      Piece.Form ⟨event, front ++ (name ++ stop)⟩ next) :
    Takes (front ++ (name ++ after)) event
      (front.length + name.length + if after.head? = some ';' then 1 else 0) := by
  split
  next semicolon =>
    obtain ⟨next, rfl⟩ := List.head?_eq_some_iff.mp semicolon
    have taken := takes_of_append (by simp [given]) (form [';'] next (.inl rfl))
    simpa [Nat.add_assoc] using taken
  next other =>
    have taken := takes_of_append (by simp [given]) (form [] after (.inr ⟨rfl, other⟩))
    simpa using taken

/-- The name of a reference is a part of the characters that can stand in one. -/
theorem of_referenceName? {run rest name : List Char} (given : run ≠ [])
    (found : referenceName? run rest = some name) : name <+: run ∧ name ≠ [] := by
  unfold referenceName? at found
  split at found
  · cases found
    exact ⟨List.prefix_rfl, given⟩
  · dsimp only at found
    split at found
    next long =>
      cases found
      have suffix : (run.reverse.dropWhile Char.isAlphanum).drop 1 <:+ run.reverse :=
        (List.drop_suffix 1 _).trans (List.dropWhile_suffix _)
      refine ⟨?_, ?_⟩
      · rw [← List.reverse_suffix, List.reverse_reverse]
        exact suffix
      · rw [Ne, List.reverse_eq_nil_iff, List.drop_eq_nil_iff]
        omega
    next => cases found

theorem isSound_nameReference (final : Bool) {c : Char} {rest : List Char} (letter : c.isAlpha) :
    (atAmpersand final ('&' :: c :: rest)).IsSound ('&' :: c :: rest) := by
  have plain : ';' ∉ c :: rest.takeWhile continuesReference := by
    intro member
    rcases List.mem_cons.mp member with same | member
    · rw [← same] at letter
      cases letter
    · exact absurd (List.mem_takeWhile_imp member) (by decide)
  unfold atAmpersand
  split
  next same =>
    cases same
    cases letter
  next _ same =>
    cases same
    rw [if_pos letter]
    dsimp only
    split
    next name found =>
      obtain ⟨front, given⟩ := of_referenceName? (List.cons_ne_nil _ _) found
      have noSemicolon : ';' ∉ name := fun member => plain (front.subset member)
      obtain ⟨after, whole⟩ : name <+: c :: rest :=
        front.trans (List.prefix_cons_inj c |>.mpr (List.takeWhile_prefix _))
      have behind : rest.drop (name.length - 1) = after := by
        obtain ⟨first, others, rfl⟩ := List.exists_cons_of_ne_nil given
        obtain ⟨-, rfl⟩ := List.cons.inj whole
        simp
      rw [behind, ← whole]
      exact takes_reference ['&'] name after (by simp) fun stop next stops =>
        .nameReference noSemicolon stops
    next =>
      split
      next last =>
        rw [last.2]
        exact .inr ⟨Nat.le_refl 1, .ampersand letter⟩
      next => exact .inl ⟨rfl, rfl⟩
  next same => cases same

/-- Whether a number is written in hexadecimal digits. -/
def isHexMarked (body : List Char) : Bool :=
  body.head?.any fun c => c = 'x' || c = 'X'

def digitsOf (body : List Char) : List Char :=
  if isHexMarked body then (body.drop 1).takeWhile Reference.isHexDigit
  else body.takeWhile Char.isDigit

/-- The digits of a number after the mark, if there is one. -/
def markedDigitsOf (body : List Char) : List Char :=
  if isHexMarked body then body.take 1 ++ digitsOf body else digitsOf body

theorem markedDigitsOf_prefix (body : List Char) : markedDigitsOf body <+: body := by
  unfold markedDigitsOf digitsOf
  split
  · have within : body.take 1 ++ (body.drop 1).takeWhile Reference.isHexDigit <+:
        body.take 1 ++ body.drop 1 :=
      (List.prefix_append_right_inj _).mpr (List.takeWhile_prefix _)
    rwa [List.take_append_drop] at within
  · exact List.takeWhile_prefix _

theorem semicolon_notMem_markedDigitsOf (body : List Char) : ';' ∉ markedDigitsOf body := by
  unfold markedDigitsOf digitsOf
  split
  next marked =>
    rw [List.mem_append, not_or]
    constructor
    · cases body with
      | nil => exact List.not_mem_nil
      | cons c body =>
          intro member
          obtain rfl : ';' = c := by simpa using member
          cases marked
    · exact fun member => absurd (List.mem_takeWhile_imp member) (by decide)
  next => exact fun member => absurd (List.mem_takeWhile_imp member) (by decide)

theorem isSound_numberReference (final : Bool) (body : List Char) :
    (atAmpersand final ('&' :: '#' :: body)).IsSound ('&' :: '#' :: body) := by
  have mark : Takes ('&' :: '#' :: body) (text ['&', '#']) 2 := by
    change Takes _ (text (('&' :: '#' :: body).take 2)) 2
    exact takes_text (by decide) (by simp)
  have halts : Move.IsSound ('&' :: '#' :: body)
      (if body.contains ';' then .halt (text ['&', '#']) 2 else .halt none 0) := by
    split
    · exact .inr mark
    · exact .inl ⟨rfl, rfl⟩
  unfold atAmpersand
  split
  next same =>
    cases same
    dsimp only
    split
    next c more _ behind =>
      change body.drop (markedDigitsOf body).length = _ at behind
      change Move.IsSound _ (if Reference.isHexDigit c then
          if body.contains ';' then .halt (text ['&', '#']) 2 else .halt none 0
        else .advance (some (.numberReference (String.ofList (markedDigitsOf body))))
          (2 + (markedDigitsOf body).length + if c = ';' then 1 else 0))
      split
      · exact halts
      · obtain ⟨after, whole⟩ := markedDigitsOf_prefix body
        have noSemicolon := semicolon_notMem_markedDigitsOf body
        generalize markedDigitsOf body = digits at behind whole noSemicolon
        rw [← whole, List.drop_left] at behind
        have taken : Takes (['&', '#'] ++ (digits ++ after))
            (some (.numberReference (String.ofList digits))) _ :=
          takes_reference ['&', '#'] digits after (by simp) fun stop next stops =>
            .numberReference noSemicolon stops
        rw [behind] at taken whole
        rw [← whole]
        simp only [List.head?_cons, Option.some.injEq] at taken
        exact taken
    next => exact halts
  next other same => exact absurd (List.cons.inj same).1.symm other
  next same => cases same

theorem isSound_atAmpersand (final : Bool) {cs : List Char} (starts : cs.head? = some '&') :
    (atAmpersand final cs).IsSound cs := by
  obtain ⟨body, rfl⟩ := List.head?_eq_some_iff.mp starts
  cases body with
  | nil => exact .inl ⟨rfl, rfl⟩
  | cons c rest =>
      by_cases number : c = '#'
      · rw [number]
        exact isSound_numberReference final rest
      · by_cases letter : c.isAlpha
        · exact isSound_nameReference final letter
        · unfold atAmpersand
          split
          next same => exact absurd (List.cons.inj same).1 number
          next _ same =>
            cases same
            rw [if_neg letter]
            change Takes _ (text (('&' :: c :: rest).take 1)) 1
            exact takes_text (Nat.le_refl 1) (by simp)
          next same => cases same

/-! ### Raw elements -/

theorem exists_of_afterLetters? {letters cs after : List Char}
    (found : afterLetters? letters cs = some after) :
    ∃ matched, cs = matched ++ after ∧ ('>' ∉ letters → '>' ∉ matched) := by
  induction letters generalizing cs with
  | nil =>
      cases found
      exact ⟨[], rfl, fun plain => plain⟩
  | cons letter letters ih =>
      cases cs with
      | nil => cases found
      | cons c cs =>
          rw [afterLetters?] at found
          split at found
          next same =>
            obtain ⟨matched, rfl, other⟩ := ih found
            refine ⟨c :: matched, rfl, fun plain member => ?_⟩
            rw [List.mem_cons, not_or] at plain
            rcases List.mem_cons.mp member with bracket | member
            · rw [← bracket] at same
              have isBracket : '>'.toLower = letter := by simpa [sameLetter] using same
              exact plain.1 isBracket
            · exact other plain.2 member
          next => cases found

theorem exists_of_rawEnd? {name cs rest : List Char} (closes : rawEnd? name cs = some rest) :
    ∃ stop, cs = stop ++ rest ∧
      ∃ inside, stop = '<' :: '/' :: (inside ++ ['>']) ∧ ('>' ∉ name → '>' ∉ inside) := by
  unfold rawEnd? at closes
  split at closes
  next body =>
    split at closes
    next after found =>
      obtain ⟨filler, rfl, blank⟩ := exists_of_bracket? closes
      obtain ⟨matched, whole, other⟩ := exists_of_afterLetters? found
      refine ⟨'<' :: '/' :: (body.takeWhile Character.isBlank ++ (matched ++ filler) ++ ['>']), ?_,
        _, rfl, fun plain => ?_⟩
      · have split : body =
            body.takeWhile Character.isBlank ++ (matched ++ (filler ++ '>' :: rest)) := by
          rw [← whole, List.takeWhile_append_dropWhile]
        exact (congrArg ('<' :: '/' :: ·) split).trans (by simp)
      · simp [bracket_notMem_blanks, blank, other plain]
    next => cases closes
  next => cases closes

theorem isSound_inRaw (name : String) {cs : List Char} (given : cs ≠ []) :
    (inRaw name cs).IsSound cs := by
  unfold inRaw
  split
  next => exact .inl ⟨rfl, rfl⟩
  next rest split =>
    obtain ⟨_, whole, inside, rfl, first⟩ :=
      exists_of_splitAtFirst (fun _ _ => exists_of_rawEnd?) split
    rw [List.nil_append] at whole
    dsimp only
    split
    next isEnd =>
      rw [whole]
      have plain := bracket_notMem_of_plainEndName? isEnd
      exact takes_of_append_sub (by simp) (.endTag plain (first plain))
    next =>
      refine takes_text ?_ given
      rw [whole, List.length_append, Nat.add_sub_cancel]
      exact Nat.succ_pos _
  next before rest other split =>
    obtain ⟨stop, whole, -⟩ := exists_of_splitAtFirst (fun _ _ => exists_of_rawEnd?) split
    have nonempty : before ≠ [] := by
      rintro rfl
      exact other rfl
    rw [whole]
    exact takes_of_append nonempty (.data nonempty)

theorem isSound_move (final : Bool) (raw : Option String) (place : Place) {cs : List Char}
    (given : cs ≠ []) : (move final raw place cs).IsSound cs := by
  unfold move
  split
  next name => exact isSound_inRaw name given
  next =>
    split
    · exact absurd rfl given
    next c cs =>
      split
      next angle => exact isSound_atAngle final place (by simp [angle])
      next =>
        split
        next ampersand => exact isSound_atAmpersand final (by simp [ampersand])
        next =>
          have nonempty : (c :: cs).takeWhile (!startsConstruct ·) ≠ [] := by
            simp [startsConstruct, *]
          have taken : Takes ((c :: cs).takeWhile (!startsConstruct ·) ++
              (c :: cs).dropWhile (!startsConstruct ·)) _ _ :=
            takes_of_append nonempty (.data nonempty)
          rwa [List.takeWhile_append_dropWhile] at taken

end Events

end LayoutBinding
