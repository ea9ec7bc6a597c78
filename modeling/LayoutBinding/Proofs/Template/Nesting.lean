import LayoutBinding.Proofs.Template.SecondReading

/-!
# The nesting of elements

A template without directives has the same elements, nested in the same way, when it is rendered
and read again, as long as its pieces come back from what they are written out as.
-/

namespace LayoutBinding

namespace Event

/-- The start tags of the open elements after events, the innermost one first. -/
def openAfterAll (opened : List StartTag) (events : List Event) : List StartTag :=
  events.foldl openAfter opened

section Gathering

variable {α : Type} {g other : Gathering α}

theorem gatheredAll_append (opened : List StartTag) (first second : List Event) :
    gatheredAll g opened (first ++ second) =
      gatheredAll g opened first ++ gatheredAll g (openAfterAll opened first) second := by
  induction first generalizing opened with
  | nil => rfl
  | cons event first ih =>
      rw [List.cons_append, gatheredAll, gatheredAll, ih, List.append_assoc]
      rfl

/-- What is gathered depends on the start tags only through what they give. -/
theorem gatheredAll_congr (texts : g.ofText = other.ofText) (ends : g.ofEnd = other.ofEnd)
    {events : List Event}
    (starts : ∀ tag ∈ events.filterMap startTag?, g.ofStart tag = other.ofStart tag)
    (opened : List StartTag) : gatheredAll g opened events = gatheredAll other opened events := by
  induction events generalizing opened with
  | nil => rfl
  | cons event events ih =>
      have first : event.gathered g opened = event.gathered other opened := by
        cases event with
        | startTag tag place => exact starts tag List.mem_cons_self
        | endTag name =>
            rw [gathered, gathered, texts, ends]
        | _ => rw [gathered, gathered, texts] <;> simp
      rw [gatheredAll, gatheredAll, first, ih]
      intro tag member
      obtain ⟨started, among, isStart⟩ := List.mem_filterMap.mp member
      exact starts tag (List.mem_filterMap.mpr ⟨started, List.mem_cons_of_mem _ among, isStart⟩)

end Gathering

theorem mem_openAfter {tag : StartTag} {opened : List StartTag} {event : Event}
    (member : tag ∈ event.openAfter opened) : tag ∈ opened ∨ event.startTag? = some tag := by
  cases event with
  | startTag started place =>
      rw [openAfter] at member
      split at member
      · rcases List.mem_cons.mp member with rfl | member
        · exact .inr rfl
        · exact .inl member
      · exact .inl member
  | endTag name =>
      rw [openAfter] at member
      split at member
      · exact .inl ((List.dropWhile_suffix _).subset (List.mem_of_mem_tail member))
      · exact .inl member
  | _ => exact .inl member

theorem mem_openAfterAll {tag : StartTag} {opened : List StartTag} {events : List Event}
    (member : tag ∈ openAfterAll opened events) :
    tag ∈ opened ∨ tag ∈ events.filterMap startTag? := by
  induction events generalizing opened with
  | nil => exact .inl member
  | cons event events ih =>
      rcases ih member with earlier | later
      · rcases mem_openAfter earlier with inOpened | isStart
        · exact .inl inOpened
        · exact .inr (List.mem_filterMap.mpr ⟨event, List.mem_cons_self, isStart⟩)
      · obtain ⟨started, among, isStart⟩ := List.mem_filterMap.mp later
        exact .inr (List.mem_filterMap.mpr ⟨started, List.mem_cons_of_mem _ among, isStart⟩)

end Event

namespace Piece

/-- Whether pieces are written out as they stand, in every context. -/
def areVerbatim (opened : List StartTag) (pieces : List Piece) : Bool :=
  areCopied opened pieces &&
    ((events pieces).filterMap Event.startTag?).all fun tag =>
      !tag.attributes.any Renderer.changesTag

theorem areFormed_right {after : List Char} {first second : List Piece}
    (formed : AreFormed after (first ++ second)) : AreFormed after second := by
  induction first with
  | nil => exact formed
  | cons p first ih => exact ih formed.2

theorem gatheredAll_rendered (r : Renderer) (context : Context) {opened : List StartTag}
    {pieces : List Piece} (formed : AreFormed [] pieces) (plain : NamesArePlain opened)
    (given : ∀ tag ∈ (events pieces).filterMap Event.startTag?, tag.raw ≠ "")
    (verbatim : areVerbatim opened pieces = true) :
    Event.gatheredAll (.rendered r context) opened (events pieces) = source pieces := by
  obtain ⟨copied, unchanged⟩ := Bool.and_eq_true_iff.mp verbatim
  have starts : ∀ tag ∈ (events pieces).filterMap Event.startTag?,
      (Gathering.rendered r context).ofStart tag = Gathering.characters.ofStart tag := by
    intro tag member
    have unchanged := List.all_eq_true.mp unchanged tag member
    rw [Bool.not_eq_true'] at unchanged
    have raw : r.startTag context ⟨tag, .start, [], false⟩ = .ok tag.raw := by
      rw [Renderer.startTag]
      dsimp only
      rw [unchanged, if_neg (by simp [given tag member])]
    have text : r.tagText context tag = tag.raw := r.tagText_eq raw
    have asText : tag.text = tag.raw := by
      rw [StartTag.text, if_neg (given tag member)]
    change (r.tagText context tag).toList = tag.text.toList
    rw [text, asText]
  have texts : (Gathering.rendered r context).ofText = Gathering.characters.ofText := rfl
  have ends : (Gathering.rendered r context).ofEnd = Gathering.characters.ofEnd := rfl
  rw [Event.gatheredAll_congr texts ends starts, Event.gatheredAll_characters,
    ← outputs_eq_transcript]
  exact (outputs_eq_source_iff formed plain).mpr copied

end Piece

namespace Events

/-- Whether a template has the same elements after it has been written out: all pieces that the
first run reads come back, and what it leaves is written out as it stands or is the content of a
raw element without an end. -/
def areStable (cs : List Char) : Bool :=
  match run false none .start cs with
  | .error _ => false
  | .ok first =>
      let read := pieces false none .start cs
      read.all Piece.isStable &&
        (first.raw.isSome ||
          Piece.areVerbatim (Event.openAfterAll [] first.events) ((piecesOf cs).drop read.length))

/-- A raw element that is open when a run has stopped stays open. -/
theorem run_of_isSome {raw : Option String} {place : Place} {cs : List Char} {result : Run}
    (ran : run false raw place cs = .ok result) (isRaw : result.raw.isSome) (second : Place) :
    ∃ last, run true result.raw second result.rest = .ok last ∧ last.events = [] ∧
      last.raw = result.raw ∧ last.rest = result.rest := by
  fun_induction run false raw place cs generalizing result with
  | case1 raw place =>
      cases ran
      exact ⟨⟨[], [], second, raw⟩, by rw [run], rfl, rfl, rfl⟩
  | case2 => cases ran
  | case3 raw place c tail event length moved =>
      cases ran
      obtain ⟨name, rfl⟩ := Option.isSome_iff_exists.mp isRaw
      obtain ⟨rfl, rfl, -⟩ := of_inRaw_halt moved
      have movedToo : move true (some name) second (c :: tail) = .halt none 0 := moved
      exact run_of_halt movedToo
  | case4 => cases ran
  | case5 raw place c tail event length moved later ranLater ih =>
      cases ran
      have stays := ih ranLater isRaw
      exact stays

theorem filterMap_tagOnly?_last (second : Run) :
    (if second.rest = [] ∨ second.raw.isSome then [] else (text second.rest).toList).filterMap
      Event.tagOnly? = [] := by
  split
  · rfl
  · rfl

/-- The events of a template are read in two runs. -/
theorem ofChars_eq_ok_iff {cs : List Char} {read : List Event} :
    ofChars cs = .ok read ↔ ∃ first second, run false none .start cs = .ok first ∧
      run true first.raw first.place first.rest = .ok second ∧
      read = first.events ++ second.events ++
        if second.rest = [] ∨ second.raw.isSome then [] else (text second.rest).toList := by
  constructor
  · intro parsed
    obtain ⟨first, ranFirst, parsed⟩ := bind_eq_ok_iff.mp parsed
    obtain ⟨second, ranSecond, parsed⟩ := bind_eq_ok_iff.mp parsed
    cases parsed
    exact ⟨first, second, ranFirst, ranSecond, rfl⟩
  · rintro ⟨first, second, ranFirst, ranSecond, rfl⟩
    exact bind_eq_ok_iff.mpr ⟨first, ranFirst, bind_eq_ok_iff.mpr ⟨second, ranSecond, rfl⟩⟩

theorem of_piecesOf {cs : List Char} {read : List Event} (parsed : ofChars cs = .ok read)
    {first : Run} (ran : run false none .start cs = .ok first) {behind : List Piece}
    (cut : behind = (piecesOf cs).drop (pieces false none .start cs).length) :
    read = first.events ++ Piece.events behind ∧ Piece.source behind = first.rest ∧
      Piece.AreFormed [] behind := by
  obtain ⟨firstEvents, firstWhole, -⟩ := pieces_of_run ran
  obtain ⟨sameEvents, whole, formed⟩ := pieces_of_ofChars parsed
  have split : piecesOf cs = pieces false none .start cs ++ behind := by
    obtain ⟨first, second, ranFirst, ranSecond, -⟩ := ofChars_eq_ok_iff.mp parsed
    have all : piecesOf cs = pieces false none .start cs ++
        (pieces true first.raw first.place first.rest ++ lastPiece second) := by
      rw [piecesOf, ranFirst]
      dsimp only
      rw [ranSecond]
    rw [cut, all, List.drop_left]
  rw [split] at sameEvents whole formed
  rw [Piece.events_append, firstEvents] at sameEvents
  rw [Piece.source_append] at whole
  exact ⟨sameEvents.symm, List.append_cancel_left (whole.trans firstWhole.symm),
    Piece.areFormed_right formed⟩

/-- The second run reads the same tags in what is written out for what the first run leaves. -/
theorem run_again_of_left (r : Renderer) {context : Context} {cs : List Char}
    {read : List Event} (parsed : ofChars cs = .ok read) {first second : Run}
    (ranFirst : run false none .start cs = .ok first)
    (ranSecond : run true first.raw first.place first.rest = .ok second) {left : List Piece}
    (cut : left = (piecesOf cs).drop (pieces false none .start cs).length)
    (stable : (first.raw.isSome ||
      Piece.areVerbatim (Event.openAfterAll [] first.events) left) = true) {tail : List Char}
    (written : tail = Event.gatheredAll (.rendered r context)
      (Event.openAfterAll [] first.events) (Piece.events left)) :
    (tail = first.rest ∨ tail = [] ∧ first.raw.isSome) ∧
      ∀ place, ∃ again, run true first.raw place tail = .ok again ∧
        again.events.filterMap Event.tagOnly? = second.events.filterMap Event.tagOnly? := by
  obtain ⟨split, source, formed⟩ := of_piecesOf parsed ranFirst cut
  cases isRaw : first.raw.isSome with
  | true =>
      obtain ⟨last, ranLast, noEvents, stays, -⟩ := run_of_isSome ranFirst isRaw first.place
      obtain rfl : second = last := Except.ok.inj (ranSecond.symm.trans ranLast)
      obtain rfl : tail = [] := by
        obtain ⟨_, _, ranFirst', ranSecond', events⟩ := ofChars_eq_ok_iff.mp parsed
        obtain rfl := Except.ok.inj (ranFirst.symm.trans ranFirst')
        obtain rfl := Except.ok.inj (ranSecond.symm.trans ranSecond')
        rw [noEvents, stays, if_pos (.inr isRaw), split, List.append_nil, List.append_nil] at events
        have nothing : Piece.events left = [] := List.self_eq_append_right.mp events.symm
        rw [written, nothing]
        rfl
      refine ⟨.inr ⟨rfl, rfl⟩, fun place => ⟨⟨[], [], place, first.raw⟩, by rw [run], ?_⟩⟩
      rw [noEvents]
  | false =>
      rw [isRaw, Bool.false_or] at stable
      have found : ∀ tag ∈ read.filterMap Event.startTag?, ∃ text, tag.IsReadFrom text :=
        fun tag member => exists_isReadFrom parsed member
      rw [split, List.filterMap_append, List.forall_mem_append] at found
      have plain : Piece.NamesArePlain (Event.openAfterAll [] first.events) := by
        intro tag isOpen bracket
        rcases Event.mem_openAfterAll isOpen with nothing | isStart
        · cases nothing
        · obtain ⟨text, isRead⟩ := found.1 tag isStart
          have continues := (StartTag.isSpelled_of_read isRead.1).continues _ bracket
          exact absurd continues (by decide)
      have given : ∀ tag ∈ (Piece.events left).filterMap Event.startTag?, tag.raw ≠ "" := by
        intro tag isStart nothing
        obtain ⟨text, isRead⟩ := found.2 tag isStart
        obtain ⟨c, body, raw, -⟩ := isRead.exists_raw
        rw [nothing] at raw
        cases raw
      have same : tail = first.rest := by
        rw [written, Piece.gatheredAll_rendered r context formed plain given stable, source]
      refine ⟨.inl same, fun place => ?_⟩
      obtain ⟨again, ranAgain, matching, -⟩ := run_place ranSecond place
      rw [same]
      exact ⟨again, ranAgain, matching.tags⟩

/-- What is written out for the events of a template is read as the same tags. -/
theorem ofChars_rendered (r : Renderer) {context : Context} {cs : List Char}
    {read : List Event} (parsed : ofChars cs = .ok read) (stable : areStable cs = true)
    (starts : ∀ tag ∈ read.filterMap Event.startTag?, tag.isStable = true →
      tag.Returns (r.tagText context tag).toList) :
    ∃ back, ofChars (Event.gatheredAll (.rendered r context) [] read) = .ok back ∧
      back.filterMap Event.tagOnly? = read.filterMap Event.tagOnly? := by
  obtain ⟨first, second, ranFirst, ranSecond, events⟩ := ofChars_eq_ok_iff.mp parsed
  rw [areStable, ranFirst] at stable
  obtain ⟨returning, behind⟩ := Bool.and_eq_true_iff.mp stable
  generalize cut : (piecesOf cs).drop (pieces false none .start cs).length = left at behind
  obtain ⟨split, -⟩ := of_piecesOf parsed ranFirst cut.symm
  generalize written : Event.gatheredAll (.rendered r context)
    (Event.openAfterAll [] first.events) (Piece.events left) = tail
  obtain ⟨stays, ranLeft⟩ :=
    run_again_of_left r parsed ranFirst ranSecond cut.symm behind written.symm
  have startsFirst : ∀ tag ∈ first.events.filterMap Event.startTag?, tag.isStable = true →
      tag.Returns (r.tagText context tag).toList := by
    rw [split, List.filterMap_append, List.forall_mem_append] at starts
    exact starts.1
  obtain ⟨-, again, ranAgain, matching, rest⟩ := run_again r ranFirst (fun _ nothing => nomatch nothing)
    (List.forall_mem_nil _) (List.all_eq_true.mp returning) startsFirst stays .start
  obtain ⟨last, ranLast, tags⟩ := ranLeft again.place
  rw [← matching.raw, ← rest] at ranLast
  refine ⟨_, ofChars_eq_ok_iff.mpr ⟨again, last, ?_, ranLast, rfl⟩, ?_⟩
  · rw [split, Event.gatheredAll_append, written]
    exact ranAgain
  · rw [events]
    simp only [List.filterMap_append, filterMap_tagOnly?_last, matching.tags, tags]

end Events

namespace Renderer

/-- A template without directives that is rendered, in any context, and read again has the same
elements, nested in the same way, if its pieces come back. -/
theorem outlineAll_template (r : Renderer) {source : String} {name : Option String} {t : Template}
    (parsed : Template.parse source name = .ok t)
    (noDirectives : ∀ e ∈ t.elements, ∀ a ∈ e.start.attributes, Directive.ofName? a.name = none)
    (stable : Events.areStable source.toList = true) {context : Context} {out : String}
    (rendered : r.template t context = .ok out) (second : Option String) :
    ∃ back, Template.parse out second = .ok back ∧
      Node.outlineAll back.nodes = Node.outlineAll t.nodes := by
  obtain ⟨read, readEvents, rfl⟩ := map_eq_ok_iff.mp parsed
  obtain ⟨written, tags⟩ := r.toList_of_nodes (Template.ofEvents read)
    (fun e member => ⟨noDirectives e member, Template.isSound_of_mem member⟩) rendered
  rw [Template.gatheredAll_ofEvents] at written
  obtain ⟨back, parsedBack, same⟩ := Events.ofChars_rendered r readEvents stable (by
    intro tag member isStable
    have found := Events.exists_isReadFrom readEvents member
    rw [← Template.startTags_ofEvents] at member
    obtain ⟨e, among, rfl⟩ := List.mem_map.mp member
    obtain ⟨text, started⟩ := tags e among
    obtain ⟨cs, isRead⟩ := found
    rw [r.tagText_eq started]
    exact r.returns_of_startTag isRead (noDirectives e among) isStable started)
  refine ⟨⟨Template.ofEvents back, second⟩, ?_, Template.outlineAll_ofEvents same⟩
  rw [Template.parse, written, parsedBack]
  rfl

/-- A figure with expressions in two start tags, and with capital letters, references, a comment
and a script that are written out in another way than they were spelled. -/
def figure : String :=
  "<svg><Path d='$page.t' Fill=none></path><br/><p title=$page.t>1 &lt 2<!x></P>" ++
    "<script>a</b></Script>Tom &amp"

/-- Markup in the data changes nothing in the elements. -/
theorem outlineAll_template_figure :
    let r : Renderer := ⟨.builtin, []⟩
    ∃ t, Template.parse figure none = .ok t ∧
      (∀ e ∈ t.elements, ∀ a ∈ e.start.attributes, Directive.ofName? a.name = none) ∧
      Events.areStable figure.toList = true ∧ ∃ out back,
        r.template t (pageContext "\"><g>") = .ok out ∧ out ≠ figure ∧
        Template.parse out none = .ok back ∧
        Node.outlineAll back.nodes = Node.outlineAll t.nodes ∧
        Node.outlineAll t.nodes = [.element "svg" [.element "path" [], .element "br" [],
          .element "p" [], .element "script" []]] := by
  intro r
  have computed : (Template.parse figure none).map (fun t =>
      decide ((∀ e ∈ t.elements, ∀ a ∈ e.start.attributes, Directive.ofName? a.name = none) ∧
        Node.outlineAll t.nodes = [.element "svg" [.element "path" [], .element "br" [],
          .element "p" [], .element "script" []]] ∧
        ∃ out ∈ (r.template t (pageContext "\"><g>")).toOption, out ≠ figure)) = .ok true := by
    decide +kernel
  obtain ⟨t, parsed, facts⟩ := map_eq_ok_iff.mp computed
  obtain ⟨noDirectives, outline, out, given, other⟩ := of_decide_eq_true facts
  have rendered : r.template t (pageContext "\"><g>") = .ok out := by
    cases made : r.template t (pageContext "\"><g>") with
    | error failure =>
        rw [made] at given
        cases given
    | ok text =>
        rw [made] at given
        exact congrArg Except.ok (Option.some.inj given)
  have stable : Events.areStable figure.toList = true := by decide +kernel
  obtain ⟨back, parsedBack, same⟩ := r.outlineAll_template parsed noDirectives stable rendered none
  exact ⟨t, parsed, noDirectives, stable, out, back, rendered, other, parsedBack, same, outline⟩

/-- A drawing whose path closes itself loses the slash, so the group behind the path is read as a
part of it. -/
theorem outlineAll_template_ne :
    let r : Renderer := ⟨.builtin, []⟩
    ∃ t back, Template.parse "<svg><path d=\"$page.t\"/><g></g></svg>" none = .ok t ∧
      (∀ e ∈ t.elements, ∀ a ∈ e.start.attributes, Directive.ofName? a.name = none) ∧
      r.template t (pageContext "1") = .ok "<svg><path d=\"1\"><g></g></svg>" ∧
      Template.parse "<svg><path d=\"1\"><g></g></svg>" none = .ok back ∧
      Node.outlineAll t.nodes = [.element "svg" [.element "path" [], .element "g" []]] ∧
      Node.outlineAll back.nodes = [.element "svg" [.element "path" [.element "g" []]]] ∧
      Node.outlineAll back.nodes ≠ Node.outlineAll t.nodes := by
  intro r
  have first : (Template.parse "<svg><path d=\"$page.t\"/><g></g></svg>" none).map (fun t =>
      decide ((∀ e ∈ t.elements, ∀ a ∈ e.start.attributes, Directive.ofName? a.name = none) ∧
        r.template t (pageContext "1") = .ok "<svg><path d=\"1\"><g></g></svg>" ∧
        Node.outlineAll t.nodes = [.element "svg" [.element "path" [], .element "g" []]])) =
      .ok true := by
    decide +kernel
  have second : (Template.parse "<svg><path d=\"1\"><g></g></svg>" none).map (fun back =>
      decide (Node.outlineAll back.nodes = [.element "svg" [.element "path" [.element "g" []]]])) =
      .ok true := by
    decide +kernel
  obtain ⟨t, parsed, facts⟩ := map_eq_ok_iff.mp first
  obtain ⟨back, parsedBack, nested⟩ := map_eq_ok_iff.mp second
  obtain ⟨noDirectives, rendered, outline⟩ := of_decide_eq_true facts
  have nested := of_decide_eq_true nested
  refine ⟨t, back, parsed, noDirectives, rendered, parsedBack, outline, nested, ?_⟩
  rw [outline, nested]
  decide

end Renderer

end LayoutBinding
