import LayoutBinding.Proofs.Template.Passthrough
import LayoutBinding.Proofs.Template.RawElements
import LayoutBinding.Proofs.Template.ReturnedTag

/-!
# The second reading of a template

A template that is rendered and read again is cut into pieces that give the same tags, step by
step, as long as every piece comes back from what it is written out as.
-/

namespace LayoutBinding

namespace Events

/-! ### Places -/

/-- The place of a text matters only for the place of a start tag. -/
theorem angleConstruct_place (cs : List Char) :
    (∃ tag : StartTag, ∀ place, angleConstruct place cs =
      some (.complete (some (.startTag tag place)) tag.raw.length)) ∨
    ∀ first second, angleConstruct first cs = angleConstruct second cs := by
  match cs with
  | [] => exact .inr fun _ _ => rfl
  | [_] => exact .inr fun _ _ => rfl
  | a :: c :: body =>
      by_cases letter : c.isAlpha = true
      · cases read : StartTag.read (a :: c :: body) with
        | tag tag => exact .inl ⟨tag, fun place => by simp [angleConstruct, letter, read]⟩
        | incomplete | text | tooLong =>
            exact .inr fun _ _ => by simp [angleConstruct, letter, read]
      · exact .inr fun _ _ => by simp [angleConstruct, letter]

theorem move_place (final : Bool) (raw : Option String) (cs : List Char) :
    (∃ tag : StartTag, ∀ place, move final raw place cs =
      .advance (some (.startTag tag place)) tag.raw.length) ∨
    ∀ first second, move final raw first cs = move final raw second cs := by
  cases raw with
  | some name => exact .inr fun _ _ => rfl
  | none =>
      cases cs with
      | nil => exact .inr fun _ _ => rfl
      | cons c cs =>
          by_cases angle : c = '<'
          · subst angle
            rcases angleConstruct_place ('<' :: cs) with ⟨tag, stands⟩ | same
            · exact .inl ⟨tag, fun place => by simp [move, atAngle, stands place]⟩
            · refine .inr fun first second => ?_
              simp only [move, atAngle, same first second]
          · exact .inr fun _ _ => by simp [move, angle]

/-- Two runs have read the same tags, and the same raw element is open. -/
structure Run.Matches (again result : Run) : Prop where
  tags : again.events.filterMap Event.tagOnly? = result.events.filterMap Event.tagOnly?
  raw : again.raw = result.raw

theorem Run.Matches.cons {again result : Run} (later : again.Matches result)
    (event other : Option Event) (same : event.bind Event.tagOnly? = other.bind Event.tagOnly?) :
    Run.Matches { again with events := event.toList ++ again.events }
      { result with events := other.toList ++ result.events } where
  tags := by
    have alone (event : Option Event) :
        event.toList.filterMap Event.tagOnly? = (event.bind Event.tagOnly?).toList := by
      cases event with
      | none => rfl
      | some event => cases given : event.tagOnly? <;> simp [given]
    rw [List.filterMap_append, List.filterMap_append, later.tags, alone, alone, same]
  raw := later.raw

theorem run_place {final : Bool} {raw : Option String} {first : Place} {cs : List Char}
    {result : Run} (ran : run final raw first cs = .ok result) (second : Place) :
    ∃ again, run final raw second cs = .ok again ∧ again.Matches result ∧
      again.rest = result.rest := by
  fun_induction run final raw first cs generalizing result second with
  | case1 raw first =>
      cases ran
      exact ⟨⟨[], [], second, raw⟩, by rw [run], ⟨rfl, rfl⟩, rfl⟩
  | case2 => cases ran
  | case3 raw first c tail event length moved =>
      cases ran
      rcases move_place final raw (c :: tail) with ⟨tag, stands⟩ | same
      · rw [stands first] at moved
        cases moved
      · refine ⟨⟨event.toList, (c :: tail).drop length,
          second.advance ((c :: tail).take length), raw⟩, ?_, ⟨rfl, rfl⟩, rfl⟩
        rw [run, same second first, moved]
  | case4 => cases ran
  | case5 raw first c tail event length moved later ranLater ih =>
      cases ran
      obtain ⟨event', movedToo, sameTag, sameRaw⟩ : ∃ event',
          move final raw second (c :: tail) = .advance event' length ∧
            event'.bind Event.tagOnly? = event.bind Event.tagOnly? ∧
            rawAfter raw event' = rawAfter raw event := by
        rcases move_place final raw (c :: tail) with ⟨tag, stands⟩ | same
        · rw [stands first] at moved
          cases moved
          exact ⟨_, stands second, rfl, rfl⟩
        · exact ⟨event, (same second first).trans moved, rfl, rfl⟩
      obtain ⟨again, ranAgain, matching, rest⟩ :=
        ih ranLater (second.advance ((c :: tail).take length))
      refine ⟨{ again with events := event'.toList ++ again.events }, ?_, matching.cons _ _ sameTag,
        rest⟩
      rw [run, movedToo]
      dsimp only
      rw [sameRaw, ranAgain]

/-! ### End tags -/

theorem continuesName_of_continuesEndName {c : Char} (continues : continuesEndName c = true) :
    StartTag.continuesName c = true :=
  Character.eq_ofNat_of_lt
    (P := fun c => continuesEndName c = true → StartTag.continuesName c = true) (by decide)
    (continuesEndName_lt continues) continues

theorem exists_of_endTag {cs : List Char} {name : String} {length : Nat}
    (read : endTag cs = .complete (some (.endTag name)) length) :
    ∃ c inside, c.isAlpha = true ∧ (∀ d ∈ inside, StartTag.continuesName d = true) ∧
      name = StartTag.lowered (c :: inside) := by
  unfold endTag at read
  split at read
  · cases read
  · dsimp only at read
    split at read
    next plain =>
      cases read
      unfold plainEndName? at plain
      split at plain
      next c rest _ =>
        split at plain
        next letter =>
          split at plain
          next =>
            have continues : ∀ d ∈ rest.takeWhile continuesEndName, continuesEndName d = true :=
              fun _ => List.mem_takeWhile_imp
            have ascii : ∀ d ∈ c :: rest.takeWhile continuesEndName, d.toNat < 128 :=
              List.forall_mem_cons.mpr ⟨Character.lt_of_isAlpha letter, fun d member =>
                continuesEndName_lt (continues d member)⟩
            refine ⟨c, rest.takeWhile continuesEndName, letter, fun d member =>
              continuesName_of_continuesEndName (continues d member), ?_⟩
            rw [StartTag.lowered, Character.lowerAll_of_ascii ascii]
            exact (Option.some.inj plain).symm
          next => cases plain
        next => cases plain
      next => cases plain
    next =>
      split at read
      next c inside _ =>
        split at read
        next letter =>
          cases read
          exact ⟨c, _, letter, fun _ => List.mem_takeWhile_imp, rfl⟩
        next =>
          split at read
          · cases read
          · obtain ⟨_, _, _, same, -⟩ := exists_of_delimited read
            cases same
      next => cases read

theorem exists_of_move_endTag {place : Place} {cs : List Char} {name : String} {length : Nat}
    (moved : move false none place cs = .advance (some (.endTag name)) length) :
    cs.head? = some '<' ∧
      ∃ c inside, c.isAlpha = true ∧ (∀ d ∈ inside, StartTag.continuesName d = true) ∧
        name = StartTag.lowered (c :: inside) := by
  have given : cs ≠ [] := by
    rintro rfl
    cases moved
  obtain ⟨body, rfl⟩ : ∃ body, cs = '<' :: '/' :: body := by
    have sound := isSound_move false none place given
    rw [moved] at sound
    have form := sound.2
    rw [← List.take_append_drop length cs]
    generalize cs.take length = written at form ⊢
    cases form
    exact ⟨_, rfl⟩
  rw [move] at moved
  dsimp only at moved
  rw [if_pos rfl, atAngle, angleConstruct_endTag] at moved
  split at moved
  next stands =>
    cases moved
    exact ⟨rfl, exists_of_endTag (Option.some.inj stands)⟩
  next => cases moved
  next => cases moved
  next => split at moved <;> cases moved

/-! ### The names in end tags -/

/-- The name in the end tag that is written out when elements with these start tags are open. -/
def endName (opened : List StartTag) (name : String) : List Char :=
  match opened.find? (·.name = name) with
  | some tag => tag.writtenName.toList
  | none => name.toList

section EndNames

variable {opened : List StartTag} {name : String}

theorem lowered_endName (found : ∀ tag ∈ opened, ∃ cs, tag.IsReadFrom cs)
    (lowers : StartTag.lowered name.toList = name) :
    StartTag.lowered (endName opened name) = name := by
  unfold endName
  split
  next tag isOpen =>
    obtain ⟨cs, read⟩ := found tag (List.mem_of_find?_eq_some isOpen)
    have same : tag.name = name := by simpa using List.find?_some isOpen
    rw [(StartTag.isSpelled_of_read read.1).name, same]
  next => exact lowers

theorem isEndName_endName (found : ∀ tag ∈ opened, ∃ cs, tag.IsReadFrom cs) {c : Char}
    {inside : List Char} (letter : c.isAlpha = true)
    (continues : ∀ d ∈ inside, StartTag.continuesName d = true)
    (lowers : name = StartTag.lowered (c :: inside))
    (noBlanks : ∀ d ∈ name.toList, Character.isBlank d = false) :
    isEndName (endName opened name) = true := by
  have isName {first : Char} {others : List Char} (letter : first.isAlpha = true)
      (continues : ∀ d ∈ first :: others, StartTag.continuesName d = true)
      (same : name = StartTag.lowered (first :: others)) :
      isEndName (first :: others) = true := by
    refine Bool.and_eq_true_iff.mpr ⟨letter, List.all_eq_true.mpr fun d member => ?_⟩
    rw [continues d (List.mem_cons_of_mem first member), Bool.true_and, Bool.not_eq_true']
    cases blank : Character.isBlank d with
    | false => rfl
    | true =>
        have caseless : Character.isCaseless d = true := by
          rw [Character.isCaseless, blank, Bool.or_true]
        have among : d ∈ name.toList := by
          rw [same, StartTag.lowered, String.toList_ofList, Character.mem_lowerAll_iff caseless]
          exact List.mem_cons_of_mem first member
        rw [noBlanks d among] at blank
        cases blank
  have continuesAll : ∀ d ∈ c :: inside, StartTag.continuesName d = true :=
    List.forall_mem_cons.mpr ⟨StartTag.continuesName_of_isAlpha letter, continues⟩
  unfold endName
  split
  next tag isOpen =>
    obtain ⟨cs, read⟩ := found tag (List.mem_of_find?_eq_some isOpen)
    have spelled := StartTag.isSpelled_of_read read.1
    have same : tag.name = name := by simpa using List.find?_some isOpen
    obtain ⟨first, others, written, isLetter⟩ := read.exists_cons
    have allContinue := spelled.continues
    have nameToo := spelled.name
    rw [written] at allContinue nameToo ⊢
    exact isName isLetter allContinue (same.symm.trans nameToo.symm)
  next =>
    obtain ⟨first, others, lowerCase, isLetter⟩ := Character.exists_cons_lowerAll letter inside
    have chars : name.toList = first :: others := by
      rw [lowers, StartTag.lowered, String.toList_ofList, lowerCase]
    have allContinue := StartTag.continuesName_of_mem_lowerAll continuesAll
    rw [lowerCase] at allContinue
    rw [chars]
    refine isName isLetter allContinue ?_
    rw [← chars, lowers, StartTag.lowered_lowered]

theorem gathered_endTag (r : Renderer) (context : Context) (opened : List StartTag)
    (name : String) :
    (Event.endTag name).gathered (.rendered r context) opened =
      ['<', '/'] ++ (endName opened name ++ ['>']) := by
  rw [Event.gathered, endName]
  cases opened.find? (·.name = name) with
  | none => simp [Gathering.rendered]
  | some tag => simp [Gathering.rendered, StartTag.endTag]

end EndNames

end Events

/-! ### One step -/

/-- Whether an event comes back after it has been written out. -/
def Event.isStable : Event → Bool
  | .startTag tag _ => tag.isStable
  | .endTag name => name.toList.all fun c => !Character.isBlank c
  | .section inside => Events.isConditional inside.toList
  | _ => true

/-- Whether a piece is written out and comes back. -/
def Piece.isStable (p : Piece) : Bool :=
  p.event.any Event.isStable

/-- What is written out for an event that is no tag starts like the piece. -/
theorem Piece.Form.head?_rawText {event : Event} {written next : List Char} {shown : String}
    (form : Form ⟨some event, written⟩ next) (rawText : event.rawText? = some shown) :
    shown.toList.head? = written.head? := by
  cases form <;> cases rawText
  all_goals simp

namespace Events

/-- What is written is read in one step as an event that is the same for the nesting of
elements. -/
def ReturnsAs (raw : Option String) (written out : List Char) (event : Event) : Prop :=
  ∀ place, ∃ again, move false raw place (written ++ out) = .advance (some again) written.length ∧
    again.tagOnly? = event.tagOnly? ∧ rawAfter raw (some again) = rawAfter raw (some event)

/-- The raw element that is open after a tag depends on the name of the tag and on whether it
stays open. -/
theorem rawAfter_startTag {tag again : StartTag} (name : again.name = tag.name)
    (opens : again.opens = tag.opens) (raw : Option String) (first second : Place) :
    rawAfter raw (some (.startTag again first)) = rawAfter raw (some (.startTag tag second)) := by
  have asOpens (tag : StartTag) (place : Place) : rawAfter raw (some (.startTag tag place)) =
      if tag.opens && (tag.name = "script" || tag.name = "style") then some tag.name else raw := by
    unfold StartTag.opens
    rw [rawAfter]
    by_cases isRaw : IsRawName tag.name
    · have noVoid : isVoidName tag.name = false := by
        rcases isRaw with same | same <;> rw [same] <;> decide
      rw [noVoid, Bool.or_false]
    · simp only [IsRawName, not_or] at isRaw
      simp [isRaw]
  rw [asOpens, asOpens, name, opens]

theorem isRawName_of_rawAfter {raw : Option String} (isRaw : ∀ name ∈ raw, IsRawName name)
    (event : Option Event) : ∀ name ∈ rawAfter raw event, IsRawName name := by
  intro name member
  unfold rawAfter at member
  split at member
  next tag _ =>
    split at member
    next given =>
      obtain rfl := Option.some.inj member
      simpa [IsRawName] using (Bool.and_eq_true_iff.mp given).2
    next => exact isRaw name member
  next => cases member
  next => exact isRaw name member

section Step

variable (r : Renderer) {context : Context} {raw : Option String} {place : Place}
  {cs out : List Char} {event : Event} {length : Nat} {opened : List StartTag}

theorem returnsAs_of_inRaw {name : String} (isRaw : IsRawName name)
    (moved : inRaw name cs = .advance (some event) length)
    (found : ∀ tag ∈ opened, ∃ cs, tag.IsReadFrom cs)
    (resembles : Resembles (rawAfter (some name) (some event)) (cs.drop length) out) :
    ReturnsAs (some name) (event.gathered (.rendered r context) opened) out event ∧
      Resembles (some name) cs (event.gathered (.rendered r context) opened ++ out) := by
  rcases inRaw_again isRaw moved with isEnd | ⟨isText, again⟩
  · cases isEnd
    have lowers : StartTag.lowered name.toList = name := by
      rcases isRaw with rfl | rfl <;> decide +kernel
    obtain ⟨closes, movedToo⟩ := inRaw_endTag isRaw (lowered_endName found lowers) out
    rw [gathered_endTag]
    refine ⟨fun place => ⟨_, movedToo, rfl, rfl⟩, fun _ => ?_⟩
    rw [closes]
    rfl
  · cases isText
    obtain ⟨movedToo, resemblesToo⟩ := again out resembles
    have shown : (Event.data (String.ofList (cs.take length))).gathered (.rendered r context)
        opened = cs.take length := String.toList_ofList
    rw [shown]
    exact ⟨fun place => ⟨_, movedToo, rfl, rfl⟩, resemblesToo⟩

/-- A step that reads no tag comes back. -/
theorem returnsAs_of_rawText {shown : String} (rawText : event.rawText? = some shown)
    (moved : move false none place cs = .advance (some event) length)
    (stable : event.isStable = true) (heads : out.head? = (cs.drop length).head?)
    (form : Piece.Form ⟨some event, cs.take length⟩ (cs.drop length)) :
    ReturnsAs none shown.toList out event ∧
      (shown.toList ++ out).head? = (cs.take length).head? := by
  have kept : ∀ inside, event = .section inside → isConditional inside.toList = true := by
    rintro inside rfl
    exact stable
  have again : ReadsAs shown.toList event out := isReread_of_move moved kept heads shown rawText
  have first := form.head?_rawText rawText
  obtain ⟨c, others, written⟩ := List.exists_cons_of_ne_nil form.written_ne_nil
  refine ⟨fun place => ⟨event, again place, rfl, rfl⟩, ?_⟩
  rw [← first]
  dsimp only at written
  rw [written] at first
  obtain ⟨rest, starts⟩ := List.head?_eq_some_iff.mp first
  rw [starts]
  rfl

/-- A stable step comes back from what is written out for it. -/
theorem returnsAs_of_move (isRaw : ∀ name ∈ raw, IsRawName name)
    (moved : move false raw place cs = .advance (some event) length)
    (found : ∀ tag ∈ opened, ∃ cs, tag.IsReadFrom cs) (stable : event.isStable = true)
    (starts : ∀ tag ∈ event.startTag?, tag.Returns (r.tagText context tag).toList)
    (resembles : Resembles (rawAfter raw (some event)) (cs.drop length) out) :
    ReturnsAs raw (event.gathered (.rendered r context) opened) out event ∧
      Resembles raw cs (event.gathered (.rendered r context) opened ++ out) := by
  cases raw with
  | some name => exact returnsAs_of_inRaw r (isRaw name rfl) moved found resembles
  | none =>
      have given : cs ≠ [] := by
        rintro rfl
        cases moved
      have sound := isSound_move false none place given
      rw [moved] at sound
      obtain ⟨atLeast, form⟩ := sound
      have head : (cs.take length).head? = cs.head? := by
        rw [List.head?_take, if_neg (Nat.ne_of_gt atLeast)]
      have noTag {shown : String} (rawText : event.rawText? = some shown)
          (same : event.gathered (.rendered r context) opened = shown.toList)
          (stays : rawAfter none (some event) = none) :
          ReturnsAs none (event.gathered (.rendered r context) opened) out event ∧
            Resembles none cs (event.gathered (.rendered r context) opened ++ out) := by
        rw [stays] at resembles
        rw [same]
        exact (returnsAs_of_rawText rawText moved stable resembles form).imp id head.subst
      cases event with
      | startTag tag second =>
          have read : tag.IsReadFrom cs := by
            have event : (move false none place cs).event? = some (.startTag tag second) := by
              rw [moved]
              rfl
            exact isReadFrom_of_move event
          obtain ⟨-, _, _, rfl, -⟩ := read
          have returns := starts tag rfl
          obtain ⟨c, body, written, -⟩ := returns.exists_cons
          refine ⟨fun place => ?_, ?_⟩
          · obtain ⟨again, foundAgain, raw, name, opens⟩ := returns out
            have length : again.raw.length = (r.tagText context tag).toList.length := by
              rw [← raw, String.length_toList]
            have movedToo : move false none place _ = _ := move_of_isReadFrom foundAgain
            rw [length] at movedToo
            refine ⟨_, movedToo, ?_, rawAfter_startTag name opens none place second⟩
            simp only [Event.tagOnly?, StartTag.nameOnly, name, opens]
          · change ((r.tagText context tag).toList ++ out).head? = _
            rw [written]
            rfl
      | endTag name =>
          obtain ⟨angle, c, inside, letter, continues, lowers⟩ := exists_of_move_endTag moved
          have noBlanks : ∀ d ∈ name.toList, Character.isBlank d = false := fun d member => by
            simpa using List.all_eq_true.mp stable d member
          have again : ReadsAs _ _ out :=
            readsAs_endTag (isEndName_endName found letter continues lowers noBlanks)
          have same : StartTag.lowered (endName opened name) = name :=
            lowered_endName found (by rw [lowers, StartTag.lowered_lowered])
          rw [same] at again
          rw [gathered_endTag]
          exact ⟨fun place => ⟨_, again place, rfl, rfl⟩, angle.symm⟩
      | _ => exact noTag rfl rfl rfl

end Step

/-! ### A whole run -/

theorem move_nil (final : Bool) (raw : Option String) (place : Place) :
    move final raw place [] = .halt none 0 := by
  cases raw with
  | none => rfl
  | some name => simp [move, inRaw, splitAtFirst, rawEnd?]

theorem run_of_advance {final : Bool} {raw : Option String} {place : Place} {cs : List Char}
    {event : Option Event} {length : Nat} {later : Run}
    (moved : move final raw place cs = .advance event length)
    (ran : run final (rawAfter raw event) (place.advance (cs.take length)) (cs.drop length) =
      .ok later) :
    run final raw place cs = .ok { later with events := event.toList ++ later.events } := by
  cases cs with
  | nil =>
      rw [move_nil] at moved
      cases moved
  | cons c tail =>
      have sound := isSound_move final raw place (List.cons_ne_nil c tail)
      rw [moved] at sound
      obtain ⟨smaller, rfl⟩ := Nat.exists_eq_succ_of_ne_zero (Nat.ne_of_gt sound.1)
      rw [run, moved]
      dsimp only
      rw [Nat.succ_sub_one]
      rw [List.drop_succ_cons] at ran
      rw [ran]

theorem run_of_halt {final : Bool} {raw : Option String} {place : Place} {cs : List Char}
    {event : Option Event} {length : Nat} (moved : move final raw place cs = .halt event length) :
    ∃ result, run final raw place cs = .ok result ∧ result.events = event.toList ∧
      result.raw = raw ∧ result.rest = cs.drop length := by
  cases cs with
  | nil =>
      rw [move_nil] at moved
      cases moved
      exact ⟨⟨[], [], place, raw⟩, by rw [run], rfl, rfl, rfl⟩
  | cons c tail =>
      refine ⟨⟨event.toList, (c :: tail).drop length, place.advance ((c :: tail).take length), raw⟩,
        ?_, rfl, rfl, rfl⟩
      rw [run, moved]

theorem of_move_halt {place : Place} {cs : List Char} {event : Option Event} {length : Nat}
    (moved : move false none place cs = .halt event length) :
    event = none ∧ length = 0 ∨ event = text (cs.take length) := by
  unfold move at moved
  dsimp only at moved
  split at moved
  · cases moved
    exact .inl ⟨rfl, rfl⟩
  next c body =>
    split at moved
    · unfold atAngle at moved
      split at moved
      · cases moved
      · cases moved
      · cases moved
        exact .inl ⟨rfl, rfl⟩
      · split at moved
        · cases moved
        · cases moved
          exact .inl ⟨rfl, rfl⟩
    · split at moved
      next mark =>
        subst mark
        unfold atAmpersand at moved
        split at moved
        next same =>
          obtain rfl : body = '#' :: _ := same
          dsimp only at moved
          split at moved
          · split at moved
            · split at moved <;> cases moved
              · exact .inr rfl
              · exact .inl ⟨rfl, rfl⟩
            · cases moved
          · split at moved <;> cases moved
            · exact .inr rfl
            · exact .inl ⟨rfl, rfl⟩
        · split at moved
          · dsimp only at moved
            split at moved
            · cases moved
            · split at moved
              next last => exact absurd last.1 Bool.false_ne_true
              next =>
                cases moved
                exact .inl ⟨rfl, rfl⟩
          · cases moved
        · cases moved
          exact .inl ⟨rfl, rfl⟩
      · cases moved

/-- Inside a raw element a run stops only where no end tag follows. -/
theorem of_inRaw_halt {name : String} {cs : List Char} {event : Option Event} {length : Nat}
    (moved : inRaw name cs = .halt event length) :
    event = none ∧ length = 0 ∧ rawEnd? name.toList cs = none := by
  unfold inRaw at moved
  split at moved
  next nothing =>
    cases moved
    refine ⟨rfl, rfl, ?_⟩
    cases closes : rawEnd? name.toList cs with
    | none => rfl
    | some rest =>
        rw [splitAtFirst_of_closes closes] at nothing
        cases nothing
  · dsimp only at moved
    split at moved <;> cases moved
  · cases moved

theorem exists_isReadFrom_openAfter {raw : Option String} {place : Place} {cs : List Char}
    {event : Event} {length : Nat} (moved : move false raw place cs = .advance (some event) length)
    {opened : List StartTag} (found : ∀ tag ∈ opened, ∃ cs, tag.IsReadFrom cs) :
    ∀ tag ∈ event.openAfter opened, ∃ cs, tag.IsReadFrom cs := by
  intro tag member
  cases event with
  | startTag started second =>
      rw [Event.openAfter] at member
      split at member
      · rcases List.mem_cons.mp member with rfl | member
        · have event : (move false raw place cs).event? = some (.startTag tag second) := by
            rw [moved]
            rfl
          exact ⟨cs, isReadFrom_of_move event⟩
        · exact found tag member
      · exact found tag member
  | endTag name =>
      rw [Event.openAfter] at member
      split at member
      · exact found tag ((List.dropWhile_suffix _).subset (List.mem_of_mem_tail member))
      · exact found tag member
  | _ => exact found tag member

section Run

variable (r : Renderer) {context : Context}

/-- A run that stops at once does so again in front of what is left. -/
theorem run_again_of_halt {raw : Option String} {place : Place} {cs tail : List Char}
    {event : Option Event} {length : Nat} (moved : move false raw place cs = .halt event length)
    {opened : List StartTag}
    (behind : tail = cs.drop length ∨ tail = [] ∧ raw.isSome) (second : Place) :
    Resembles raw cs (Event.gatheredAll (.rendered r context) opened event.toList ++ tail) ∧
      ∃ again, run false raw second
          (Event.gatheredAll (.rendered r context) opened event.toList ++ tail) = .ok again ∧
        again.events = event.toList ∧ again.raw = raw ∧ again.rest = tail := by
  have movedToo : move false raw second cs = .halt event length := by
    rcases move_place false raw cs with ⟨tag, stands⟩ | same
    · rw [stands place] at moved
      cases moved
    · rw [same second place, moved]
  cases raw with
  | none =>
      obtain rfl : tail = cs.drop length := behind.resolve_right fun given => nomatch given.2
      have whole : Event.gatheredAll (.rendered r context) opened event.toList ++ cs.drop length =
          cs := by
        rcases of_move_halt moved with ⟨rfl, rfl⟩ | rfl
        · rfl
        · have shown : Event.gatheredAll (.rendered r context) opened
              (text (cs.take length)).toList = cs.take length := by
            change (String.ofList (cs.take length)).toList ++ [] = _
            rw [String.toList_ofList, List.append_nil]
          rw [shown, List.take_append_drop]
      rw [whole]
      exact ⟨rfl, run_of_halt movedToo⟩
  | some name =>
      obtain ⟨rfl, rfl, nothing⟩ := of_inRaw_halt moved
      refine ⟨fun closes => absurd closes (by simp [nothing]), ?_⟩
      rcases behind with rfl | ⟨rfl, -⟩
      · exact run_of_halt movedToo
      · exact run_of_halt (move_nil false (some name) second)

/-- A run over what is written out reads the same tags, if all pieces come back. -/
theorem run_again {raw : Option String} {place : Place} {cs tail : List Char} {result : Run}
    (ran : run false raw place cs = .ok result) (isRaw : ∀ name ∈ raw, IsRawName name)
    {opened : List StartTag} (found : ∀ tag ∈ opened, ∃ cs, tag.IsReadFrom cs)
    (stable : ∀ p ∈ pieces false raw place cs, p.isStable = true)
    (starts : ∀ tag ∈ result.events.filterMap Event.startTag?, tag.isStable = true →
      tag.Returns (r.tagText context tag).toList)
    (behind : tail = result.rest ∨ tail = [] ∧ result.raw.isSome) (second : Place) :
    Resembles raw cs (Event.gatheredAll (.rendered r context) opened result.events ++ tail) ∧
      ∃ again, run false raw second
          (Event.gatheredAll (.rendered r context) opened result.events ++ tail) = .ok again ∧
        again.Matches result ∧ again.rest = tail := by
  fun_induction run false raw place cs generalizing result opened second with
  | case1 raw place =>
      cases ran
      obtain rfl : tail = [] := behind.elim id And.left
      refine ⟨?_, ⟨[], [], second, raw⟩, by rw [Event.gatheredAll, List.nil_append, run],
        ⟨rfl, rfl⟩, rfl⟩
      cases raw with
      | none => rfl
      | some name => exact id
  | case2 => cases ran
  | case3 raw place c rest event length moved =>
      cases ran
      obtain ⟨resembles, again, ranAgain, events, raw, rest⟩ :=
        run_again_of_halt r moved behind second
      exact ⟨resembles, again, ranAgain, ⟨by rw [events], raw⟩, rest⟩
  | case4 => cases ran
  | case5 raw place c rest event length moved later ranLater ih =>
      cases ran
      rw [pieces, moved] at stable
      obtain ⟨first, others⟩ := List.forall_mem_cons.mp stable
      obtain ⟨event, rfl, stableEvent⟩ : ∃ e, event = some e ∧ e.isStable = true := by
        cases event with
        | none => cases first
        | some e => exact ⟨e, rfl, first⟩
      have sound := isSound_move false raw place (List.cons_ne_nil c rest)
      rw [moved] at sound
      have left : rest.drop (length - 1) = (c :: rest).drop length := by
        obtain ⟨smaller, rfl⟩ := Nat.exists_eq_succ_of_ne_zero (Nat.ne_of_gt sound.1)
        rfl
      change ∀ tag ∈ (event :: later.events).filterMap Event.startTag?, _ at starts
      have startsEvent : ∀ tag ∈ event.startTag?, tag.Returns (r.tagText context tag).toList := by
        intro tag isStart
        obtain ⟨second, rfl⟩ : ∃ second, event = .startTag tag second := by
          cases event <;> cases isStart
          exact ⟨_, rfl⟩
        exact starts tag List.mem_cons_self stableEvent
      have startsLater : ∀ tag ∈ later.events.filterMap Event.startTag?, tag.isStable = true →
          tag.Returns (r.tagText context tag).toList := by
        intro tag member
        obtain ⟨started, among, isStart⟩ := List.mem_filterMap.mp member
        exact starts tag (List.mem_filterMap.mpr ⟨started, List.mem_cons_of_mem _ among, isStart⟩)
      have foundLater := exists_isReadFrom_openAfter moved found
      have isRawLater := isRawName_of_rawAfter isRaw (some event)
      obtain ⟨resembles, -⟩ := ih ranLater isRawLater foundLater others startsLater behind place
      rw [left] at resembles
      obtain ⟨returns, resemblesToo⟩ :=
        returnsAs_of_move r isRaw moved found stableEvent startsEvent resembles
      have whole : Event.gatheredAll (.rendered r context) opened
            ((some event).toList ++ later.events) ++ tail =
          event.gathered (.rendered r context) opened ++
            (Event.gatheredAll (.rendered r context) (event.openAfter opened) later.events ++
              tail) := List.append_assoc _ _ _
      rw [whole]
      refine ⟨resemblesToo, ?_⟩
      obtain ⟨event', movedToo, sameTag, sameRaw⟩ := returns second
      obtain ⟨-, again, ranAgain, matching, rest⟩ := ih ranLater isRawLater foundLater others
        startsLater behind (second.advance (event.gathered (.rendered r context) opened))
      refine ⟨_, run_of_advance movedToo ?_, matching.cons (some event') (some event) sameTag,
        rest⟩
      rw [sameRaw, List.take_left, List.drop_left]
      exact ranAgain

end Run

end Events

end LayoutBinding
