import LayoutBinding.Proofs.Template.Locations

/-!
# What end tags close

Elements are numbered in the order of their start tags.  An element is open from its start tag
on until an end tag closes it or an element around it, and an end tag closes the innermost open
element of its name.  This is told from the events alone; a tree under construction keeps the
numbers of its open elements, and marks as closed just what the end tags close.
-/

namespace LayoutBinding

namespace Event

variable {events : List Event} {now number : Nat}

def startsBefore (events : List Event) (now : Nat) : List StartTag :=
  (events.take now).filterMap startTag?

def IsNamed (events : List Event) (name : String) (number : Nat) : Prop :=
  ∃ tag, (events.filterMap startTag?)[number]? = some tag ∧ tag.name = name

/-- Of the elements that are open the innermost one with a name has a number: all others that
have the name were started before. -/
def IsInnermost (events : List Event) (isOpen : Nat → Prop) (name : String) (number : Nat) :
    Prop :=
  isOpen number ∧ IsNamed events name number ∧
    ∀ other, isOpen other → IsNamed events name other → other ≤ number

/-- The event at a position starts the element with a number, and this stays open. -/
def Opens (events : List Event) (now number : Nat) : Prop :=
  ∃ tag place, events[now]? = some (.startTag tag place) ∧ tag.opens ∧
    number = (startsBefore events now).length

/-- The element with a number is open when the event at a position is read.  It stays open as
long as no end tag closes it or an element that was started before it. -/
def IsOpenAt (events : List Event) : Nat → Nat → Prop
  | 0, _ => False
  | now + 1, number =>
      Opens events now number ∨
        IsOpenAt events now number ∧
          ∀ name closed, events[now]? = some (.endTag name) →
            IsInnermost events (IsOpenAt events now) name closed → number < closed

/-- The event at a position is an end tag that closes the element with a number. -/
def Closes (events : List Event) (now number : Nat) : Prop :=
  ∃ name, events[now]? = some (.endTag name) ∧
    IsInnermost events (IsOpenAt events now) name number

/-- No element with a name is open when the event at a position is read. -/
def NoneOpen (events : List Event) (now : Nat) (name : String) : Prop :=
  ∀ number, IsOpenAt events now number → ¬IsNamed events name number

theorem isOpen_succ :
    IsOpenAt events (now + 1) number ↔
      Opens events now number ∨
        IsOpenAt events now number ∧ ∀ closed, Closes events now closed → number < closed := by
  rw [IsOpenAt]
  refine or_congr_right (and_congr_right fun _ => ?_)
  exact ⟨fun outside closed ⟨name, found, innermost⟩ => outside name closed found innermost,
    fun outside name closed found innermost => outside closed ⟨name, found, innermost⟩⟩

theorem length_startsBefore_le {first second : Nat} (before : first ≤ second) :
    (startsBefore events first).length ≤ (startsBefore events second).length :=
  ((List.take_prefix_take_left before).filterMap startTag?).length_le

theorem startsBefore_succ {event : Event} (found : events[now]? = some event) :
    startsBefore events (now + 1) = startsBefore events now ++ event.startTag?.toList := by
  rw [startsBefore, List.take_add_one, found, List.filterMap_append]
  cases event <;> rfl

theorem startsBefore_prefix (events : List Event) (now : Nat) :
    startsBefore events now <+: events.filterMap startTag? :=
  (List.take_prefix now events).filterMap startTag?

/-- A start tag has as many others before it as its number says. -/
theorem getElem?_startTags {tag : StartTag} {place : Place}
    (found : events[now]? = some (.startTag tag place)) :
    (events.filterMap startTag?)[(startsBefore events now).length]? = some tag := by
  obtain ⟨later, whole⟩ := startsBefore_prefix events (now + 1)
  rw [← whole, startsBefore_succ found]
  simp [startTag?]

theorem Opens.lt (opens : Opens events now number) :
    number < (startsBefore events (now + 1)).length := by
  obtain ⟨tag, place, found, -, rfl⟩ := opens
  rw [startsBefore_succ found]
  simp [startTag?]

theorem IsOpenAt.lt (isOpen : IsOpenAt events now number) :
    number < (startsBefore events now).length := by
  induction now with
  | zero => exact isOpen.elim
  | succ now ih =>
      rcases isOpen_succ.mp isOpen with opens | ⟨isOpen, -⟩
      · exact opens.lt
      · exact (ih isOpen).trans_le (length_startsBefore_le (Nat.le_succ now))

theorem Closes.isOpen (closes : Closes events now number) : IsOpenAt events now number := by
  obtain ⟨-, -, isOpen, -⟩ := closes
  exact isOpen

theorem Closes.unique {other : Nat} (closes : Closes events now number)
    (closesOther : Closes events now other) : other = number := by
  obtain ⟨name, found, isOpen, named, innermost⟩ := closes
  obtain ⟨name', found', isOpen', named', innermost'⟩ := closesOther
  obtain rfl : name = name' := by simpa [found] using found'
  exact le_antisymm (innermost other isOpen' named') (innermost' number isOpen named)

/-- What an end tag closes is never open again, nor is anything inside it. -/
theorem Closes.not_isOpen {inner later : Nat} (closes : Closes events now number)
    (inside : number ≤ inner) (isOpen : IsOpenAt events now inner) (after : now < later) :
    ¬IsOpenAt events later inner := by
  -- Later start tags have higher numbers.
  have notOpened {moment : Nat} (still : now ≤ moment) : ¬Opens events moment inner := by
    rintro ⟨-, -, -, -, rfl⟩
    exact absurd (isOpen.lt.trans_le (length_startsBefore_le still)) (lt_irrefl _)
  induction later, after using Nat.le_induction with
  | base =>
      rw [isOpen_succ]
      rintro (opens | ⟨-, outside⟩)
      · exact notOpened le_rfl opens
      · exact absurd (outside number closes) (not_lt.mpr inside)
  | succ later after ih =>
      rw [isOpen_succ]
      rintro (opens | ⟨stays, -⟩)
      · exact notOpened (Nat.le_of_succ_le after) opens
      · exact ih stays

theorem Closes.unique_moment {later : Nat} (closes : Closes events now number)
    (closesLater : Closes events later number) : later = now := by
  rcases lt_trichotomy later now with before | same | after
  · exact absurd closes.isOpen (closesLater.not_isOpen le_rfl closesLater.isOpen before)
  · exact same
  · exact absurd closesLater.isOpen (closes.not_isOpen le_rfl closes.isOpen after)

/-- An element is left unclosed when an element around it is closed. -/
theorem Closes.not_closes_inside {inner moment : Nat} (closes : Closes events now number)
    (inside : number < inner) (isOpen : IsOpenAt events now inner) :
    ¬Closes events moment inner := by
  intro closesInner
  rcases lt_trichotomy moment now with before | rfl | after
  · exact closesInner.not_isOpen le_rfl closesInner.isOpen before isOpen
  · exact inside.ne' (closes.unique closesInner)
  · exact closes.not_isOpen inside.le isOpen after closesInner.isOpen

theorem not_opens_of_startTag? {event : Event} (found : events[now]? = some event)
    (noStart : event.startTag? = none) : ¬Opens events now number := by
  rintro ⟨tag, place, isStart, -⟩
  obtain rfl := Option.some.inj (found.symm.trans isStart)
  cases noStart

theorem not_closes_of_ne {event : Event} (found : events[now]? = some event)
    (noEnd : ∀ name, event ≠ .endTag name) : ¬Closes events now number := by
  rintro ⟨name, isEnd, -⟩
  exact noEnd name (Option.some.inj (found.symm.trans isEnd))

theorem not_closes_of_noneOpen {name : String} (found : events[now]? = some (.endTag name))
    (noneOpen : NoneOpen events now name) (number : Nat) : ¬Closes events now number := by
  rintro ⟨name', isEnd, isOpen, isNamed, -⟩
  obtain rfl : name = name' := by simpa [found] using isEnd
  exact noneOpen number isOpen isNamed

end Event

/-! ### Numbers of open elements -/

namespace Builder

/-- Which elements have an end tag so far, in document order. -/
def closings (b : Builder) : List Bool :=
  (Node.elementsOfAll b.top.reverse).map Element.closed ++
    b.stack.reverse.flatMap fun o =>
      false :: (Node.elementsOfAll o.children.reverse).map Element.closed

/-- The numbers and the start tags of the open elements, the innermost one first. -/
def numbered (top : List Node) : List OpenElement → List (Nat × StartTag)
  | [] => []
  | o :: outer => ((closings ⟨top, outer⟩).length, o.start) :: numbered top outer

/-- Of the numbered start tags with a name one has the highest number. -/
structure IsNearest (entries : List (Nat × StartTag)) (name : String) (number : Nat)
    (tag : StartTag) : Prop where
  member : (number, tag) ∈ entries
  named : tag.name = name
  highest : ∀ other tag', (other, tag') ∈ entries → tag'.name = name → other ≤ number

variable {b : Builder} {name : String} {number : Nat} {tag : StartTag} {top : List Node}

theorem closings_cons (top : List Node) (o : OpenElement) (outer : List OpenElement) :
    closings ⟨top, o :: outer⟩ =
      closings ⟨top, outer⟩ ++
        false :: (Node.elementsOfAll o.children.reverse).map Element.closed := by
  simp [closings]

theorem closings_add (b : Builder) (node : Node) :
    (b.add node).closings = b.closings ++ node.elements.map Element.closed := by
  obtain ⟨top, stack⟩ := b
  cases stack with
  | nil => simp [add, closings, Node.elementsOfAll_addTo]
  | cons o outer => simp [add, closings, Node.elementsOfAll_addTo]

theorem numbered_add (b : Builder) (node : Node) :
    numbered (b.add node).top (b.add node).stack = numbered b.top b.stack := by
  obtain ⟨top, stack⟩ := b
  cases stack <;> rfl

theorem closings_closeInnermost (top : List Node) (o : OpenElement) (outer : List OpenElement)
    (closed : Bool) :
    (closeInnermost ⟨top, o :: outer⟩ closed).closings =
      closings ⟨top, outer⟩ ++
        closed :: (Node.elementsOfAll o.children.reverse).map Element.closed := by
  rw [closeInnermost, closings_add]
  rfl

/-- Leaving an element unclosed marks nothing. -/
theorem closings_closeInnermost_false (top : List Node) (o : OpenElement)
    (outer : List OpenElement) :
    (closeInnermost ⟨top, o :: outer⟩ false).closings = closings ⟨top, o :: outer⟩ := by
  rw [closings_closeInnermost, closings_cons]

theorem numbered_closeInnermost (top : List Node) (o : OpenElement) (outer : List OpenElement)
    (closed : Bool) :
    numbered (closeInnermost ⟨top, o :: outer⟩ closed).top
        (closeInnermost ⟨top, o :: outer⟩ closed).stack =
      numbered top outer :=
  numbered_add ⟨top, outer⟩ _

theorem closings_handle_startTag (b : Builder) (tag : StartTag) (place : Place) :
    (b.handle (.startTag tag place)).closings = b.closings ++ [false] := by
  rw [handle_startTag]
  split
  · simp [closings, Node.elementsOfAll]
  · rw [closings_add]
    rfl

theorem numbered_handle_startTag (b : Builder) (tag : StartTag) (place : Place) :
    numbered (b.handle (.startTag tag place)).top (b.handle (.startTag tag place)).stack =
      if tag.opens then
        (b.closings.length, tag) :: numbered b.top b.stack
      else
        numbered b.top b.stack := by
  rw [handle_startTag]
  split
  · rfl
  · exact numbered_add b _

theorem map_snd_numbered (top : List Node) (stack : List OpenElement) :
    (numbered top stack).map Prod.snd = stack.map OpenElement.start := by
  induction stack with
  | nil => rfl
  | cons o outer ih => rw [numbered, List.map_cons, ih, List.map_cons]

theorem lt_of_mem_numbered {stack : List OpenElement}
    (member : (number, tag) ∈ numbered top stack) : number < (closings ⟨top, stack⟩).length := by
  induction stack with
  | nil => cases member
  | cons o outer ih =>
      rw [closings_cons, List.length_append]
      rcases List.mem_cons.mp member with first | member
      · obtain ⟨rfl, -⟩ := Prod.mk.inj first
        exact Nat.lt_add_of_pos_right (Nat.succ_pos _)
      · exact (ih member).trans_le (Nat.le_add_right _ _)

theorem isOpen_iff_exists (b : Builder) (name : String) :
    b.isOpen name = true ↔ ∃ o ∈ b.stack, o.start.name = name := by
  simp [isOpen]

theorem isNearest_cons_of_ne {entry : Nat × StartTag} {entries : List (Nat × StartTag)}
    (different : entry.2.name ≠ name) :
    IsNearest (entry :: entries) name number tag ↔ IsNearest entries name number tag := by
  have among {other : Nat} {tag' : StartTag} (named : tag'.name = name) :
      (other, tag') ∈ entry :: entries ↔ (other, tag') ∈ entries := by
    refine ⟨fun member => ?_, List.mem_cons_of_mem entry⟩
    rcases List.mem_cons.mp member with rfl | member
    · exact absurd named different
    · exact member
  constructor
  · rintro ⟨member, named, highest⟩
    exact ⟨(among named).mp member, named, fun other tag' member' named' =>
      highest other tag' ((among named').mpr member') named'⟩
  · rintro ⟨member, named, highest⟩
    exact ⟨(among named).mpr member, named, fun other tag' member' named' =>
      highest other tag' ((among named').mp member') named'⟩

theorem isNearest_head (top : List Node) (o : OpenElement) (outer : List OpenElement) :
    IsNearest (numbered top (o :: outer)) o.start.name (closings ⟨top, outer⟩).length o.start := by
  refine ⟨List.mem_cons_self, rfl, fun other tag' member _ => ?_⟩
  rcases List.mem_cons.mp member with first | member
  · exact (Prod.mk.inj first).1.le
  · exact (lt_of_mem_numbered member).le

theorem IsNearest.unique {entries : List (Nat × StartTag)} {other : Nat} {tag' : StartTag}
    (first : IsNearest entries name number tag) (second : IsNearest entries name other tag') :
    number = other :=
  le_antisymm (second.highest number tag first.member first.named)
    (first.highest other tag' second.member second.named)

theorem exists_isNearest (top : List Node) {stack : List OpenElement}
    (found : ∃ o ∈ stack, o.start.name = name) :
    ∃ number tag, IsNearest (numbered top stack) name number tag := by
  induction stack with
  | nil => simp at found
  | cons o outer ih =>
      by_cases named : o.start.name = name
      · exact ⟨_, _, named ▸ isNearest_head top o outer⟩
      · obtain ⟨number, tag, nearest⟩ := ih (by simpa [named] using found)
        exact ⟨number, tag, (isNearest_cons_of_ne named).mpr nearest⟩

/-- Closing up to an element marks this element, and those outside it stay open. -/
theorem closings_closeThrough (nearest : IsNearest (numbered b.top b.stack) name number tag) :
    (closeThrough name b.top b.stack).closings = b.closings.set number true ∧
      ∀ entry, entry ∈ numbered (closeThrough name b.top b.stack).top
          (closeThrough name b.top b.stack).stack ↔
        entry ∈ numbered b.top b.stack ∧ entry.1 < number := by
  induction b using induction_on_open with
  | done top => cases nearest.member
  | close top o outer ih =>
      rw [closeThrough_cons]
      by_cases named : o.start.name = name
      · subst named
        obtain rfl := nearest.unique (isNearest_head top o outer)
        rw [if_pos rfl, closings_closeInnermost, closings_cons, numbered_closeInnermost]
        refine ⟨by simp, fun entry => ?_⟩
        rw [numbered, List.mem_cons]
        constructor
        · exact fun member => ⟨.inr member, lt_of_mem_numbered member⟩
        · rintro ⟨rfl | member, before⟩
          · exact absurd before (lt_irrefl _)
          · exact member
      · have nearest : IsNearest (numbered top outer) name number tag :=
          (isNearest_cons_of_ne named).mp nearest
        have inner := ih false
        rw [numbered_closeInnermost, closings_closeInnermost_false] at inner
        obtain ⟨marks, remain⟩ := inner nearest
        rw [if_neg named]
        refine ⟨marks, fun entry => ?_⟩
        rw [remain, numbered, List.mem_cons]
        refine and_congr_left fun before => ⟨.inr, ?_⟩
        rintro (rfl | member)
        · exact absurd (before.trans (lt_of_mem_numbered nearest.member)) (lt_irrefl _)
        · exact member

theorem closings_finish (b : Builder) :
    (Node.elementsOfAll b.finish).map Element.closed = b.closings := by
  unfold finish
  induction b using induction_on_open with
  | done top => simp [closeAll, closings]
  | close top o outer ih => rw [closeAll_cons, ih false, closings_closeInnermost_false]

/-! ### The tree under construction and the events -/

open Event

/-- A builder has the open elements that the first events leave, and has marked as closed
what the end tags among them close. -/
structure Tracks (events : List Event) (now : Nat) (b : Builder) : Prop where
  counted : b.closings.length = (startsBefore events now).length
  isOpen : ∀ number, IsOpenAt events now number ↔ ∃ tag, (number, tag) ∈ numbered b.top b.stack
  tags : ∀ number tag, (number, tag) ∈ numbered b.top b.stack →
    (events.filterMap startTag?)[number]? = some tag
  closed : ∀ number closed, b.closings[number]? = some closed →
    (closed = true ↔ ∃ before < now, Closes events before number)

namespace Tracks

variable {events : List Event} {now : Nat}

theorem start (events : List Event) : Tracks events 0 empty where
  counted := rfl
  isOpen number := by simp [IsOpenAt, empty, numbered]
  tags number tag member := by cases member
  closed number closed found := by simp [closings, empty, Node.elementsOfAll] at found

theorem isNamed_iff (tracks : Tracks events now b)
    (member : (number, tag) ∈ numbered b.top b.stack) :
    IsNamed events name number ↔ tag.name = name := by
  simp [IsNamed, tracks.tags number tag member]

/-- The nearest of the numbered elements is the innermost one that the events leave open. -/
theorem isInnermost (tracks : Tracks events now b)
    (nearest : IsNearest (numbered b.top b.stack) name number tag) :
    IsInnermost events (IsOpenAt events now) name number := by
  refine ⟨(tracks.isOpen number).mpr ⟨tag, nearest.member⟩,
    (tracks.isNamed_iff nearest.member).mpr nearest.named, fun other isOpen isNamed => ?_⟩
  obtain ⟨tag', member⟩ := (tracks.isOpen other).mp isOpen
  exact nearest.highest other tag' member ((tracks.isNamed_iff member).mp isNamed)

theorem noneOpen_iff (tracks : Tracks events now b) :
    NoneOpen events now name ↔ b.isOpen name = false := by
  rw [← Bool.not_eq_true, isOpen_iff_exists]
  constructor
  · intro noneOpen found
    obtain ⟨number, tag, nearest⟩ := exists_isNearest b.top found
    obtain ⟨isOpen, isNamed, -⟩ := tracks.isInnermost nearest
    exact noneOpen number isOpen isNamed
  · intro noneFound number isOpen isNamed
    obtain ⟨tag, member⟩ := (tracks.isOpen number).mp isOpen
    have onStack : tag ∈ b.stack.map OpenElement.start :=
      map_snd_numbered b.top b.stack ▸ List.mem_map_of_mem member
    obtain ⟨o, among, rfl⟩ := List.mem_map.mp onStack
    exact noneFound ⟨o, among, (tracks.isNamed_iff member).mp isNamed⟩

theorem add_raw (tracks : Tracks events now b) {event : Event}
    (found : events[now]? = some event) (noStart : event.startTag? = none)
    (noneClosed : ∀ number, ¬Closes events now number) (text : String) :
    Tracks events (now + 1) (b.add (.raw text)) where
  counted := by
    rw [closings_add, startsBefore_succ found, noStart]
    simpa [Node.elements] using tracks.counted
  isOpen number := by
    rw [isOpen_succ, numbered_add, tracks.isOpen]
    simp [not_opens_of_startTag? found noStart, noneClosed]
  tags number tag := by
    rw [numbered_add]
    exact tracks.tags number tag
  closed number closed := by
    rw [closings_add, Nat.exists_lt_succ_right]
    simpa [Node.elements, noneClosed] using tracks.closed number closed

theorem handle_startTag (tracks : Tracks events now b) {place : Place}
    (found : events[now]? = some (.startTag tag place)) :
    Tracks events (now + 1) (b.handle (.startTag tag place)) := by
  have noneClosed (number : Nat) : ¬Closes events now number :=
    not_closes_of_ne found (by simp)
  have opens (number : Nat) :
      Opens events now number ↔ tag.opens ∧ number = b.closings.length := by
    simp [Opens, found, tracks.counted]
  constructor
  · rw [closings_handle_startTag, startsBefore_succ found, List.length_append, List.length_append,
      tracks.counted]
    rfl
  · intro number
    rw [isOpen_succ, opens, tracks.isOpen, numbered_handle_startTag]
    by_cases stays : tag.opens <;> simp [stays, noneClosed, exists_or]
  · intro number tag' member
    rw [numbered_handle_startTag] at member
    split at member
    · rcases List.mem_cons.mp member with first | member
      · obtain ⟨rfl, rfl⟩ := Prod.mk.inj first
        rw [tracks.counted]
        exact getElem?_startTags found
      · exact tracks.tags number tag' member
    · exact tracks.tags number tag' member
  · intro number closed marked
    rw [closings_handle_startTag, List.getElem?_append] at marked
    rw [Nat.exists_lt_succ_right]
    split at marked
    · simpa [noneClosed] using tracks.closed number closed marked
    next new =>
      -- The element has just been started, so no end tag has closed it.
      obtain rfl : closed = false := by
        have only := List.mem_of_getElem? marked
        simpa using only
      refine iff_of_false Bool.false_ne_true ?_
      rintro (⟨before, earlier, closes⟩ | closes)
      · refine new (closes.isOpen.lt.trans_le ?_)
        exact (length_startsBefore_le earlier.le).trans tracks.counted.ge
      · exact noneClosed number closes

theorem closeThrough (tracks : Tracks events now b)
    (found : events[now]? = some (.endTag name))
    (nearest : IsNearest (numbered b.top b.stack) name number tag) :
    Tracks events (now + 1) (Builder.closeThrough name b.top b.stack) := by
  obtain ⟨marks, remain⟩ := closings_closeThrough nearest
  have closes : Closes events now number := ⟨name, found, tracks.isInnermost nearest⟩
  constructor
  · rw [marks, List.length_set, tracks.counted, startsBefore_succ found]
    simp [startTag?]
  · intro other
    have outside : (∀ closed, Closes events now closed → other < closed) ↔ other < number :=
      ⟨fun before => before number closes,
        fun before closed also => (closes.unique also).symm ▸ before⟩
    rw [isOpen_succ, outside, tracks.isOpen]
    simp [not_opens_of_startTag? found rfl, remain]
  · exact fun other tag' member => tracks.tags other tag' ((remain _).mp member).1
  · intro other closed marked
    rw [marks, List.getElem?_set] at marked
    rw [Nat.exists_lt_succ_right]
    by_cases same : number = other
    · subst same
      obtain ⟨-, rfl⟩ : _ ∧ true = closed := by simpa using marked
      exact iff_of_true rfl (.inr closes)
    · have notClosed : ¬Closes events now other := fun also =>
        same (closes.unique also).symm
      rw [if_neg same] at marked
      simpa [notClosed] using tracks.closed other closed marked

theorem handle_endTag (tracks : Tracks events now b)
    (found : events[now]? = some (.endTag name)) :
    Tracks events (now + 1) (b.handle (.endTag name)) := by
  rw [Builder.handle]
  split
  next isOpen =>
    obtain ⟨number, tag, nearest⟩ := exists_isNearest b.top ((isOpen_iff_exists b name).mp isOpen)
    exact tracks.closeThrough found nearest
  next notOpen =>
    have noneOpen := tracks.noneOpen_iff.mpr (Bool.eq_false_iff.mpr notOpen)
    exact tracks.add_raw found rfl (not_closes_of_noneOpen found noneOpen) _

theorem handle (tracks : Tracks events now b) {event : Event}
    (found : events[now]? = some event) : Tracks events (now + 1) (b.handle event) := by
  cases event with
  | startTag tag place => exact tracks.handle_startTag found
  | endTag name => exact tracks.handle_endTag found
  | _ => exact tracks.add_raw found rfl (fun _ => not_closes_of_ne found (by simp)) _

theorem foldl (events : List Event) {now : Nat} (reached : now ≤ events.length) :
    Tracks events now ((events.take now).foldl Builder.handle .empty) := by
  induction now with
  | zero => exact start events
  | succ now ih =>
      have found : events[now]? = some events[now] := List.getElem?_eq_getElem reached
      rw [List.take_succ_eq_append_getElem reached, List.foldl_append]
      exact (ih (Nat.le_of_succ_le reached)).handle found

end Tracks

end Builder

namespace Event

/-- An end tag closes an element, unless no element with its name is open. -/
theorem exists_closes_or_noneOpen {events : List Event} {now : Nat} {name : String}
    (found : events[now]? = some (.endTag name)) :
    (∃ number, Closes events now number ∧ IsNamed events name number) ∨
      NoneOpen events now name := by
  have reached : now ≤ events.length := (List.getElem?_eq_some_iff.mp found).1.le
  have tracks := Builder.Tracks.foldl events reached
  cases isOpen : ((events.take now).foldl Builder.handle .empty).isOpen name with
  | false => exact .inr (tracks.noneOpen_iff.mpr isOpen)
  | true =>
      obtain ⟨number, tag, nearest⟩ :=
        Builder.exists_isNearest _ ((Builder.isOpen_iff_exists _ name).mp isOpen)
      have innermost := tracks.isInnermost nearest
      exact .inl ⟨number, ⟨name, found, innermost⟩, innermost.2.1⟩

end Event

namespace Template

open Event

/-- An element has an end tag if one of the events is an end tag that closes it. -/
theorem closed_ofEvents {events : List Event} {number : Nat} {e : Element}
    (found : (Node.elementsOfAll (ofEvents events))[number]? = some e) :
    e.closed = true ↔ ∃ now, Closes events now number := by
  have tracks := Builder.Tracks.foldl events le_rfl
  rw [List.take_length] at tracks
  have marked : (events.foldl Builder.handle .empty).closings[number]? = some e.closed := by
    rw [← Builder.closings_finish, List.getElem?_map]
    exact congrArg (Option.map Element.closed) found
  rw [tracks.closed number e.closed marked]
  refine exists_congr fun now => and_iff_right_of_imp ?_
  rintro ⟨name, isEnd, -⟩
  exact (List.getElem?_eq_some_iff.mp isEnd).1

end Template

end LayoutBinding
