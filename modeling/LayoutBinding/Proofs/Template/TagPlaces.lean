import LayoutBinding.Fault
import LayoutBinding.Template.Events
import LayoutBinding.Proofs.Template.Gathering

/-!
# Where start tags are read

The start tags of a template are read at angle brackets that a letter follows, outside raw
elements.
-/

namespace LayoutBinding

/-- The tag is what a text with an angle bracket and a letter starts with. -/
def StartTag.IsReadFrom (tag : StartTag) (cs : List Char) : Prop :=
  StartTag.read cs = .tag tag ∧ ∃ c body, cs = '<' :: c :: body ∧ c.isAlpha = true

namespace Events

variable {tag : StartTag} {place : Place} {cs : List Char} {length : Nat}

theorem startTag?_of_delimited {event : String → Event} {skip searched : Nat}
    {close? : List Char → Option (List Char)} {made : Event}
    (noTag : ∀ text, (event text).startTag? = none)
    (read : delimited event skip close? cs searched = .complete (some made) length) :
    made.startTag? = none := by
  unfold delimited at read
  split at read
  · cases read
    exact noTag _
  · cases read

theorem startTag?_of_markedSection {made : Event}
    (read : markedSection cs = .complete (some made) length) : made.startTag? = none := by
  unfold markedSection at read
  split at read
  · cases read
  · split at read
    · dsimp only at read
      split at read
      · cases read
      · split at read
        · exact startTag?_of_delimited (fun _ => rfl) read
        · split at read
          · exact startTag?_of_delimited (fun _ => rfl) read
          · cases read
    · cases read

theorem startTag?_of_declaration {made : Event}
    (read : declaration cs = .complete (some made) length) : made.startTag? = none := by
  unfold declaration at read
  split at read
  · exact startTag?_of_markedSection read
  · split at read
    · exact startTag?_of_delimited (fun _ => rfl) read
    · exact startTag?_of_delimited (fun _ => rfl) read

theorem startTag?_of_endTag {made : Event}
    (read : endTag cs = .complete (some made) length) : made.startTag? = none := by
  unfold endTag at read
  split at read
  · cases read
  · dsimp only at read
    split at read
    · cases read
      rfl
    · split at read
      · split at read
        · cases read
          rfl
        · split at read
          · cases read
          · exact startTag?_of_delimited (fun _ => rfl) read
      · cases read

theorem isReadFrom_of_angleConstruct {second : Place} (starts : cs.head? = some '<')
    (stands : angleConstruct place cs =
      some (.complete (some (.startTag tag second)) length)) : tag.IsReadFrom cs := by
  unfold angleConstruct at stands
  split at stands
  next first c body =>
    obtain rfl : first = '<' := Option.some.inj starts
    split at stands
    next letter =>
      split at stands
      · cases stands
      · cases stands
      next found =>
        cases stands
        exact ⟨found, c, body, rfl, letter⟩
      · cases stands
    next =>
      -- The other constructs are not start tags.
      split at stands
      · cases startTag?_of_endTag (Option.some.inj stands)
      · split at stands
        · cases startTag?_of_delimited (fun _ => rfl) (Option.some.inj stands)
        · split at stands
          · cases startTag?_of_delimited (fun _ => rfl) (Option.some.inj stands)
          · split at stands
            · cases startTag?_of_declaration (Option.some.inj stands)
            · cases stands
  next => cases stands

/-- The event of a step, if there is one. -/
def Move.event? : Move → Option Event
  | .advance event _ => event
  | .halt event _ => event
  | .fail _ => none

theorem startTag?_of_atAmpersand {final : Bool} {made : Event}
    (read : (atAmpersand final cs).event? = some made) : made.startTag? = none := by
  unfold atAmpersand at read
  split at read
  · dsimp only at read
    split at read
    · split at read
      · split at read <;> cases read
        rfl
      · cases read
        rfl
    · split at read <;> cases read
      rfl
  · split at read
    · dsimp only at read
      split at read
      · cases read
        rfl
      · split at read <;> cases read
    · cases read
      rfl
  · cases read

theorem startTag?_of_inRaw {name : String} {made : Event}
    (moved : (inRaw name cs).event? = some made) : made.startTag? = none := by
  unfold inRaw at moved
  split at moved
  · cases moved
  · dsimp only at moved
    split at moved <;> cases moved <;> rfl
  · cases moved
    rfl

/-- A step that reads a start tag reads it where it stands. -/
theorem isReadFrom_of_move {final : Bool} {raw : Option String} {second : Place}
    (moved : (move final raw place cs).event? = some (.startTag tag second)) :
    tag.IsReadFrom cs := by
  unfold move at moved
  split at moved
  next name => cases startTag?_of_inRaw moved
  next =>
    split at moved
    · cases moved
    next c body =>
      split at moved
      next bracket =>
        unfold atAngle at moved
        split at moved
        next event taken stands =>
          obtain rfl : event = some (.startTag tag second) := moved
          exact isReadFrom_of_angleConstruct (congrArg some bracket) stands
        next => cases moved
        next => split at moved <;> cases moved
        next => split at moved <;> cases moved
      next =>
        split at moved
        next => cases startTag?_of_atAmpersand moved
        next => cases moved

theorem exists_isReadFrom_of_run {final : Bool} {raw : Option String} {second : Place}
    {result : Run} (ran : run final raw place cs = .ok result)
    (member : .startTag tag second ∈ result.events) : ∃ text, tag.IsReadFrom text := by
  fun_induction run final raw place cs generalizing result with
  | case1 raw place =>
      cases ran
      cases member
  | case2 => cases ran
  | case3 raw place c tail event length moved =>
      cases ran
      have given : (move final raw place (c :: tail)).event? = some (.startTag tag second) := by
        rw [moved]
        exact Option.mem_toList.mp member
      exact ⟨c :: tail, isReadFrom_of_move given⟩
  | case4 => cases ran
  | case5 raw place c tail event length moved later ranLater ih =>
      cases ran
      rcases List.mem_append.mp member with first | behind
      · have given : (move final raw place (c :: tail)).event? = some (.startTag tag second) := by
          rw [moved]
          exact Option.mem_toList.mp first
        exact ⟨c :: tail, isReadFrom_of_move given⟩
      · exact ih ranLater behind

theorem exists_isReadFrom {events : List Event} (parsed : ofChars cs = .ok events)
    (member : tag ∈ events.filterMap Event.startTag?) : ∃ text, tag.IsReadFrom text := by
  obtain ⟨first, ranFirst, parsed⟩ := bind_eq_ok_iff.mp parsed
  obtain ⟨second, ranSecond, parsed⟩ := bind_eq_ok_iff.mp parsed
  cases parsed
  obtain ⟨event, among, same⟩ := List.mem_filterMap.mp member
  obtain ⟨place, rfl⟩ : ∃ place, event = .startTag tag place := by
    cases event <;> cases same
    exact ⟨_, rfl⟩
  rcases List.mem_append.mp among with among | last
  · rcases List.mem_append.mp among with inFirst | inSecond
    · exact exists_isReadFrom_of_run ranFirst inFirst
    · exact exists_isReadFrom_of_run ranSecond inSecond
  · split at last
    · cases last
    · cases List.mem_singleton.mp last

/-! ### A tag that is read again -/

theorem move_of_isReadFrom {final : Bool} (found : tag.IsReadFrom cs) :
    move final none place cs = .advance (some (.startTag tag place)) tag.raw.length := by
  obtain ⟨read, c, body, rfl, letter⟩ := found
  simp [move, atAngle, angleConstruct, letter, read]

/-- The text of a tag is the text of an element without an end. -/
theorem ofChars_of_isReadFrom (found : tag.IsReadFrom cs) (whole : tag.raw.toList = cs) :
    ofChars cs = .ok [.startTag tag .start] := by
  have moved : move false none .start cs = .advance _ _ := move_of_isReadFrom found
  have length : tag.raw.length = cs.length := by rw [← whole, String.length_toList]
  obtain ⟨-, c, body, rfl, -⟩ := found
  have nothing : (c :: body).drop (tag.raw.length - 1) = [] := by
    rw [List.drop_eq_nil_iff, length]
    exact Nat.le_of_eq rfl
  have read : run false none .start ('<' :: c :: body) =
      .ok ⟨[.startTag tag .start], [], Place.start.advance (('<' :: c :: body).take tag.raw.length),
        rawAfter none (some (.startTag tag .start))⟩ := by
    rw [run, moved]
    dsimp only
    rw [nothing, run]
    rfl
  rw [ofChars, read]
  change (do
    let second ← run true _ _ []
    _) = _
  rw [run]
  rfl

end Events

theorem Template.parse_of_isReadFrom {tag : StartTag} {cs : List Char} (found : tag.IsReadFrom cs)
    (whole : tag.raw.toList = cs) (name : Option String) :
    parse tag.raw name = .ok ⟨[.element ⟨tag, .start, [], false⟩], name⟩ := by
  have events := Events.ofChars_of_isReadFrom found whole
  rw [parse, whole, events]
  change Except.ok (⟨ofEvents [.startTag tag .start], name⟩ : Template) = _
  rw [ofEvents, List.foldl_cons, List.foldl_nil, Builder.handle_startTag]
  split <;>
    simp [Builder.empty, Builder.finish, Builder.closeAll, Builder.add, Node.addTo,
      OpenElement.build]

end LayoutBinding
