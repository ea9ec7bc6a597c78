import LayoutBinding.Proofs.Template.DocumentOrder
import LayoutBinding.Proofs.Template.PieceForms
import LayoutBinding.Proofs.Template.TagPlaces

/-!
# Where the elements of a template stand

Each element of a template has the place of its start tag: counted from the start of the
source, that is where the start tag was read.  The places of the elements ascend in document
order, so that the location in an error belongs to one element.
-/

namespace LayoutBinding

namespace Place

/-! ### Places and offsets -/

/-- One place is on an earlier line than another, or further to the left on its line. -/
def Precedes (first second : Place) : Prop :=
  first.line < second.line ∨ first.line = second.line ∧ first.column < second.column

theorem Precedes.trans {first second third : Place} (before : first.Precedes second)
    (after : second.Precedes third) : first.Precedes third := by
  unfold Precedes at *
  omega

theorem Precedes.ne {first second : Place} (before : first.Precedes second) :
    first ≠ second := by
  rintro rfl
  unfold Precedes at before
  omega

theorem eq_of_line_column {first second : Place} (line : first.line = second.line)
    (column : first.column = second.column) : first = second := by
  cases first
  cases second
  exact congr (congrArg Place.mk line) column

theorem precedes_next (place : Place) (c : Char) : place.Precedes (place.next c) := by
  unfold Precedes next
  split <;> simp

theorem precedes_advance (place : Place) {cs : List Char} (given : cs ≠ []) :
    place.Precedes (place.advance cs) := by
  induction cs generalizing place with
  | nil => exact absurd rfl given
  | cons c cs ih =>
      have first := place.precedes_next c
      cases cs with
      | nil => exact first
      | cons d cs => exact first.trans (ih (place.next c) (List.cons_ne_nil d cs))

theorem line_le_advance (place : Place) (cs : List Char) :
    place.line ≤ (place.advance cs).line := by
  cases cs with
  | nil => exact Nat.le_refl _
  | cons c cs =>
      have moved := place.precedes_advance (List.cons_ne_nil c cs)
      unfold Precedes at moved
      omega

/-- The number of characters in some of the first lines of a text, each with its end. -/
def lengthOfLines (cs : List Char) (count : Nat) : Nat :=
  (((cs.splitOn '\n').take count).flatMap fun line => line ++ ['\n']).length

/-- The number of characters in front of a line and a column, both counted from 1. -/
def offset (cs : List Char) (line column : Nat) : Nat :=
  lengthOfLines cs (line - 1) + (column - 1)

theorem lengthOfLines_newline (cs : List Char) (count : Nat) :
    lengthOfLines ('\n' :: cs) (count + 1) = lengthOfLines cs count + 1 := by
  have split : ('\n' :: cs).splitOn '\n' = [] :: cs.splitOn '\n' := by
    simp [List.splitOn, List.splitOnP_cons_eq_if_modifyHead]
  rw [lengthOfLines, split, lengthOfLines, List.take_succ_cons, List.flatMap_cons]
  rfl

theorem lengthOfLines_cons {c : Char} (other : c ≠ '\n') (cs : List Char) (count : Nat) :
    lengthOfLines (c :: cs) (count + 1) = lengthOfLines cs (count + 1) + 1 := by
  have split : (c :: cs).splitOn '\n' = (cs.splitOn '\n').modifyHead (c :: ·) := by
    simp [List.splitOn, List.splitOnP_cons_eq_if_modifyHead, other]
  obtain ⟨line, lines, whole⟩ := List.exists_cons_of_ne_nil (List.splitOn_ne_nil '\n' cs)
  rw [lengthOfLines, split, lengthOfLines, whole, List.modifyHead_cons, List.take_succ_cons,
    List.take_succ_cons, List.flatMap_cons, List.flatMap_cons]
  rfl

/-- Going on by some characters passes the ends of as many lines as the line number grows. -/
theorem lengthOfLines_advance (place : Place) (before after : List Char) :
    lengthOfLines (before ++ after) ((place.advance before).line - place.line) +
        (place.advance before).column =
      before.length + if (place.advance before).line = place.line then place.column else 0 := by
  induction before generalizing place with
  | nil => simp [advance, lengthOfLines]
  | cons c before ih =>
      change lengthOfLines (c :: (before ++ after))
          (((place.next c).advance before).line - place.line) +
            ((place.next c).advance before).column =
        before.length + 1 +
          if ((place.next c).advance before).line = place.line then place.column else 0
      have behind := ih (place.next c)
      have grows := line_le_advance (place.next c) before
      by_cases newline : c = '\n'
      · subst newline
        have nextLine : (place.next '\n').line = place.line + 1 := rfl
        have nextColumn : (place.next '\n').column = 0 := rfl
        rw [nextLine] at behind grows
        rw [nextColumn, ite_self] at behind
        obtain ⟨count, line⟩ := Nat.exists_eq_add_of_le grows
        rw [line, Nat.add_assoc, Nat.add_sub_cancel_left, Nat.add_comm 1,
          lengthOfLines_newline, if_neg (by omega)]
        rw [line, Nat.add_sub_cancel_left] at behind
        omega
      · have nextPlace : place.next c = ⟨place.line, place.column + 1⟩ := if_neg newline
        rw [nextPlace] at behind grows ⊢
        dsimp only at behind grows
        generalize (Place.advance ⟨place.line, place.column + 1⟩ before) = last at behind grows ⊢
        obtain ⟨count, line⟩ := Nat.exists_eq_add_of_le grows
        -- Where no line ends among the characters, no line is passed and the column grows.
        cases count with
        | zero =>
            simp only [line, Nat.add_zero, Nat.sub_self, if_true] at behind ⊢
            simp only [lengthOfLines, List.take_zero, List.flatMap_nil, List.length_nil] at behind ⊢
            omega
        | succ count =>
            rw [line, Nat.add_sub_cancel_left, if_neg (by omega)] at behind ⊢
            rw [lengthOfLines_cons newline]
            omega

/-- The line and the column of a place lead back to what is in front of it. -/
theorem offset_advance (before after : List Char) :
    offset (before ++ after) (start.advance before).line ((start.advance before).column + 1) =
      before.length := by
  have passed := lengthOfLines_advance start before after
  have nothing : (if (start.advance before).line = start.line then start.column else 0) = 0 :=
    ite_self 0
  rw [nothing] at passed
  exact passed

end Place

/-! ### Start tags in the source -/

/-- Start tags that stand in a text one after the other, at these places when the text
begins at a place. -/
def Located (place : Place) (cs : List Char) : List (StartTag × Place) → Prop
  | [] => True
  | (tag, stands) :: later =>
      ∃ before after, cs = before ++ (tag.raw.toList ++ after) ∧
        stands = place.advance before ∧ tag.IsReadFrom (tag.raw.toList ++ after) ∧
          Located (stands.advance tag.raw.toList) after later

theorem Located.skip {place : Place} {skipped cs : List Char} {tags : List (StartTag × Place)}
    (located : Located (place.advance skipped) cs tags) :
    Located place (skipped ++ cs) tags := by
  cases tags with
  | nil => trivial
  | cons first later =>
      obtain ⟨before, after, rfl, stands, read, located⟩ := located
      refine ⟨skipped ++ before, after, by simp, ?_, read, located⟩
      rw [stands, Place.advance_append]

theorem StartTag.IsReadFrom.exists_append {tag : StartTag} {cs : List Char}
    (found : tag.IsReadFrom cs) :
    tag.raw.toList ≠ [] ∧ ∃ rest, cs = tag.raw.toList ++ rest := by
  obtain ⟨raw, rest, same, rawEq, given, -⟩ := StartTag.exists_of_read found.1
  rw [rawEq, String.toList_ofList]
  exact ⟨given, rest, same⟩

theorem Located.of_mem {place : Place} {cs : List Char} {tags : List (StartTag × Place)}
    (located : Located place cs tags) {tag : StartTag} {stands : Place}
    (member : (tag, stands) ∈ tags) :
    ∃ before after, cs = before ++ (tag.raw.toList ++ after) ∧
      stands = place.advance before ∧ tag.IsReadFrom (tag.raw.toList ++ after) := by
  induction tags generalizing place cs with
  | nil => cases member
  | cons first tags ih =>
      obtain ⟨before, after, rfl, starts, read, located⟩ := located
      rcases List.mem_cons.mp member with rfl | member
      · exact ⟨before, after, rfl, starts, read⟩
      · obtain ⟨inside, behind, rfl, later, found⟩ := ih located member
        refine ⟨before ++ (first.1.raw.toList ++ inside), behind, by simp, ?_, found⟩
        rw [later, starts, Place.advance_append, Place.advance_append]

theorem Located.pairwise {place : Place} {cs : List Char} {tags : List (StartTag × Place)}
    (located : Located place cs tags) :
    tags.Pairwise fun first second => first.2.Precedes second.2 := by
  induction tags generalizing place cs with
  | nil => exact List.Pairwise.nil
  | cons first tags ih =>
      obtain ⟨before, after, rfl, starts, read, located⟩ := located
      obtain ⟨given, -⟩ := read.exists_append
      refine List.pairwise_cons.mpr ⟨fun second member => ?_, ih located⟩
      obtain ⟨inside, behind, rfl, later, -⟩ := located.of_mem member
      rw [later, ← Place.advance_append]
      exact Place.precedes_advance _ (List.append_ne_nil_of_left_ne_nil given inside)

def Event.located? : Event → Option (StartTag × Place)
  | .startTag tag place => some (tag, place)
  | _ => none

theorem Event.isStartTag_or (event : Option Event) :
    (∃ tag place, event = some (.startTag tag place)) ∨
      event.toList.filterMap Event.located? = [] := by
  cases event with
  | none => exact .inr rfl
  | some event =>
      cases event with
      | startTag tag place => exact .inl ⟨tag, place, rfl⟩
      | _ => exact .inr rfl

namespace Events

/-- A step that reads a start tag reads it at the place of the step, and goes on behind
it. -/
theorem move_of_startTag {final : Bool} {raw : Option String} {place second : Place}
    {cs : List Char} {tag : StartTag}
    (moved : (move final raw place cs).event? = some (.startTag tag second)) :
    tag.IsReadFrom cs ∧ second = place ∧
      move final raw place cs = .advance (some (.startTag tag place)) tag.raw.length := by
  have found := isReadFrom_of_move moved
  cases raw with
  | some name => cases startTag?_of_inRaw moved
  | none =>
      have steps : move final none place cs = .advance _ _ := move_of_isReadFrom found
      rw [steps] at moved
      cases moved
      exact ⟨found, rfl, steps⟩

/-- The start tags that a run reads are located in its text, in front of those that are
located in what it leaves. -/
theorem located_of_run {final : Bool} {raw : Option String} {place : Place} {cs : List Char}
    {result : Run} (ran : run final raw place cs = .ok result)
    {later : List (StartTag × Place)} (located : Located result.place result.rest later) :
    Located place cs (result.events.filterMap Event.located? ++ later) := by
  fun_induction run final raw place cs generalizing result with
  | case1 raw place =>
      cases ran
      exact located
  | case2 => cases ran
  | case3 raw place c tail event length moved =>
      cases ran
      -- A step that reads a start tag goes on, so the last step has read none.
      have noTag : event.toList.filterMap Event.located? = [] := by
        rcases Event.isStartTag_or event with ⟨tag, second, rfl⟩ | noTag
        · obtain ⟨-, -, steps⟩ := move_of_startTag (congrArg Move.event? moved)
          rw [moved] at steps
          cases steps
        · exact noTag
      rw [noTag, ← List.take_append_drop length (c :: tail)]
      exact located.skip
  | case4 => cases ran
  | case5 raw place c tail event length moved after ranAfter ih =>
      cases ran
      have sound := isSound_move final raw place (List.cons_ne_nil c tail)
      rw [moved] at sound
      have behind : tail.drop (length - 1) = (c :: tail).drop length := Takes.drop_tail sound
      have located := ih ranAfter located
      rw [behind] at located
      dsimp only
      rw [List.filterMap_append, List.append_assoc]
      rcases Event.isStartTag_or event with ⟨tag, second, rfl⟩ | noTag
      · obtain ⟨found, rfl, steps⟩ := move_of_startTag (congrArg Move.event? moved)
        rw [moved] at steps
        obtain rfl : length = tag.raw.length := by
          cases steps
          rfl
        obtain ⟨-, rest, whole⟩ := found.exists_append
        rw [whole] at found located ⊢
        rw [← String.length_toList, List.take_left, List.drop_left] at located
        exact ⟨[], rest, rfl, rfl, found, located⟩
      · rw [noTag, ← List.take_append_drop length (c :: tail)]
        exact located.skip

theorem located_of_ofChars {cs : List Char} {events : List Event}
    (parsed : ofChars cs = .ok events) :
    Located .start cs (events.filterMap Event.located?) := by
  obtain ⟨first, ranFirst, parsed⟩ := bind_eq_ok_iff.mp parsed
  obtain ⟨second, ranSecond, parsed⟩ := bind_eq_ok_iff.mp parsed
  cases parsed
  have noTag : (if second.rest = [] ∨ second.raw.isSome then []
      else (text second.rest).toList).filterMap Event.located? = [] := by
    split <;> rfl
  rw [List.filterMap_append, List.filterMap_append, noTag, List.append_assoc]
  exact located_of_run ranFirst (located_of_run ranSecond trivial)

end Events

/-! ### Start tags in the tree -/

def Element.located (e : Element) : StartTag × Place :=
  (e.start, e.place)

theorem Node.elementsOfAll_addTo (node : Node) (nodes : List Node) :
    elementsOfAll (node.addTo nodes).reverse = elementsOfAll nodes.reverse ++ node.elements := by
  unfold addTo
  split <;> simp [elementsOfAll, elements]

namespace Builder

/-- The start tags that are in the tree so far with their places, in document order. -/
def located (b : Builder) : List (StartTag × Place) :=
  (Node.elementsOfAll b.top.reverse).map Element.located ++
    b.stack.reverse.flatMap fun o =>
      (o.start, o.place) :: (Node.elementsOfAll o.children.reverse).map Element.located

theorem located_add (b : Builder) (node : Node) :
    (b.add node).located = b.located ++ node.elements.map Element.located := by
  obtain ⟨top, stack⟩ := b
  cases stack with
  | nil => simp [add, located, Node.elementsOfAll_addTo]
  | cons o outer => simp [add, located, Node.elementsOfAll_addTo]

theorem located_closeInnermost (b : Builder) (closed : Bool) :
    (b.closeInnermost closed).located = b.located := by
  obtain ⟨top, stack⟩ := b
  cases stack with
  | nil => rfl
  | cons o outer =>
      rw [closeInnermost, located_add]
      simp [located, OpenElement.build, Node.elements, Element.located]

theorem located_handle (b : Builder) (event : Event) :
    (b.handle event).located = b.located ++ event.located?.toList := by
  cases event with
  | startTag tag place =>
      rw [handle_startTag]
      split
      · simp [located, Node.elementsOfAll, Event.located?]
      · rw [located_add]
        rfl
  | endTag name =>
      rw [handle]
      split
      · have same := closeThrough_keeps (P := fun other => other.located = b.located)
          (fun other closed holds => (located_closeInnermost other closed).trans holds) name rfl
        exact same.trans (List.append_nil _).symm
      · rw [located_add]
        rfl
  | _ => exact located_add b _

theorem located_foldl (b : Builder) (events : List Event) :
    (events.foldl handle b).located = b.located ++ events.filterMap Event.located? := by
  induction events generalizing b with
  | nil => simp
  | cons event events ih =>
      rw [List.foldl_cons, ih, located_handle, List.append_assoc]
      cases event <;> rfl

theorem located_finish (b : Builder) :
    (Node.elementsOfAll b.finish).map Element.located = b.located := by
  have same := closeAll_keeps (P := fun other => other.located = b.located)
    (fun other closed holds => (located_closeInnermost other closed).trans holds) rfl
  rw [located, List.reverse_nil, List.flatMap_nil, List.append_nil] at same
  exact same

end Builder

/-- The elements of a tree have the start tags of its events with their places, in document
order. -/
theorem Template.located_ofEvents (events : List Event) :
    (Node.elementsOfAll (ofEvents events)).map Element.located =
      events.filterMap Event.located? := by
  rw [ofEvents, Builder.located_finish, Builder.located_foldl]
  rfl

/-! ### Locations in errors -/

namespace Numeral

theorem naturalChars_injective {n m : Nat} (same : naturalChars n = naturalChars m) : n = m := by
  have back (n : Nat) : Nat.ofDigitChars 10 (naturalChars n) 0 = n :=
    Nat.ofDigitChars_toDigits (by decide) (by decide)
  rw [← back n, same, back]

/-- The digits of a number end at the last space. -/
theorem takeWhile_reverse_naturalChars (front : List Char) (n : Nat) :
    (front ++ ' ' :: naturalChars n).reverse.takeWhile (· ≠ ' ') = (naturalChars n).reverse := by
  have digits : ∀ c ∈ (naturalChars n).reverse, decide (c ≠ ' ') = true := by
    intro c member
    have digit := Nat.isDigit_of_mem_toDigits (by decide) (by decide)
      (List.mem_reverse.mp member)
    apply decide_eq_true
    rintro rfl
    cases digit
  rw [List.reverse_append, List.reverse_cons, List.append_assoc,
    List.takeWhile_append_of_pos digits]
  simp

theorem append_naturalChars_inj {front other : List Char} {n m : Nat}
    (same : front ++ ' ' :: naturalChars n = other ++ ' ' :: naturalChars m) :
    front = other ∧ n = m := by
  have digits := takeWhile_reverse_naturalChars front n
  rw [same, takeWhile_reverse_naturalChars] at digits
  obtain rfl : n = m := naturalChars_injective (List.reverse_inj.mp digits.symm)
  exact ⟨List.append_cancel_right same, rfl⟩

end Numeral

theorem Element.place_eq_of_location {first second : Element}
    (same : first.location = second.location) : first.place = second.place := by
  have spelled (e : Element) : e.location.toList =
      ((("<" ++ e.start.name ++ "> at line").toList ++ ' ' :: Numeral.naturalChars e.place.line) ++
        ", column".toList) ++ ' ' :: Numeral.naturalChars e.column := by
    simp [location, Numeral.natural]
  have letters := congrArg String.toList same
  rw [spelled, spelled] at letters
  obtain ⟨front, column⟩ := Numeral.append_naturalChars_inj letters
  obtain ⟨-, line⟩ := Numeral.append_naturalChars_inj (List.append_cancel_right front)
  exact Place.eq_of_line_column line (Nat.succ.inj column)

/-- Every element of a template stands where its line and column say: counted from the start
of the source its start tag is read there, and the source goes on with the tag as it was
written.  The elements are walked in document order, each of them once, and their lines and
columns ascend, so that no two elements have the same location. -/
theorem Template.locations_of_parse {source : String} {name : Option String} {t : Template}
    (parsed : parse source name = .ok t) :
    (∀ e ∈ t.elements,
      let offset := Place.offset source.toList e.place.line e.column
      Place.start.advance (source.toList.take offset) = e.place ∧
        e.start.IsReadFrom (source.toList.drop offset) ∧
        e.start.raw.toList <+: source.toList.drop offset) ∧
      (∃ positions : List (List Nat),
        positions.Pairwise (· < ·) ∧
          (∀ position, position ∈ positions ↔
            ∃ e, Node.elementAmong? t.nodes position = some e) ∧
          Node.walk t.nodes = positions.filterMap (Node.elementAmong? t.nodes)) ∧
      Node.walk t.nodes = t.elements ∧
      (Node.walk t.nodes).Pairwise (fun first second =>
        first.place.line < second.place.line ∨
          first.place.line = second.place.line ∧ first.column < second.column) ∧
      ((Node.walk t.nodes).map Element.location).Nodup := by
  have walked : Node.walk t.nodes = t.elements := Node.walk_eq_elementsOfAll t.nodes
  obtain ⟨events, read, rfl⟩ := map_eq_ok_iff.mp parsed
  have located := Events.located_of_ofChars read
  rw [← located_ofEvents] at located
  have ascend := List.pairwise_map.mp located.pairwise
  rw [walked]
  refine ⟨fun e member => ?_, walked ▸ Node.exists_positions _, rfl,
    ascend.imp fun before => ?_, ?_⟩
  · obtain ⟨before, after, whole, stands, found⟩ :=
      located.of_mem (List.mem_map.mpr ⟨e, member, rfl⟩)
    have offset : Place.offset source.toList e.place.line e.column = before.length := by
      change Place.offset source.toList e.place.line (e.place.column + 1) = before.length
      rw [whole, show e.place = _ from stands]
      exact Place.offset_advance before _
    dsimp only
    rw [offset, whole, List.take_left, List.drop_left]
    exact ⟨stands.symm, found, List.prefix_append _ _⟩
  · simpa [Element.column, Element.located, Place.Precedes] using before
  · refine List.pairwise_map.mpr (ascend.imp fun before same => ?_)
    exact before.ne (Element.place_eq_of_location same)

/-- A list whose items are closed by what follows them, with a tag on two lines and a script. -/
def Template.listing : String :=
  "<!-- n -->\n<ul>\n <LI id=\"1\n2\">x<br>&amp;\n <li>y</p></ul><script>\n<b></script> <i/>\n<p"

theorem Template.locations_of_parse_listing :
    ∃ t, parse listing none = .ok t ∧
      (t.elements.map fun e => (e.start.raw, e.place.line, e.column)) =
        [("<ul>", 2, 1), ("<LI id=\"1\n2\">", 3, 2), ("<br>", 4, 5), ("<li>", 5, 2),
          ("<script>", 5, 16), ("<i/>", 6, 14)] ∧
      (∀ e ∈ t.elements,
        e.start.raw.toList <+:
          listing.toList.drop (Place.offset listing.toList e.place.line e.column)) ∧
      ((Node.walk t.nodes).map Element.location).Nodup := by
  have computed : (parse listing none).map (fun t =>
      t.elements.map fun e => (e.start.raw, e.place.line, e.column)) =
        .ok [("<ul>", 2, 1), ("<LI id=\"1\n2\">", 3, 2), ("<br>", 4, 5), ("<li>", 5, 2),
          ("<script>", 5, 16), ("<i/>", 6, 14)] := by
    decide +kernel
  obtain ⟨t, parsed, tags⟩ := map_eq_ok_iff.mp computed
  obtain ⟨stands, -, -, -, apart⟩ := locations_of_parse parsed
  exact ⟨t, parsed, tags, fun e member => (stands e member).2.2, apart⟩

end LayoutBinding
