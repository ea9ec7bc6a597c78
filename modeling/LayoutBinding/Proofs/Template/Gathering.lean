import LayoutBinding.Template.Builder

/-!
# Gathering from trees and from events

What a tree holds can be gathered in document order, and an event adds what it holds
to what the tree under construction holds already.  So a tree gives what its events
give; in particular its elements have the start tags of the events, in their order.
An element that does not stay open has nothing inside and no end tag.
-/

namespace LayoutBinding

/-- What is gathered from texts and from the two ends of an element. -/
structure Gathering (α : Type) where
  ofText : String → List α
  ofStart : StartTag → List α
  ofEnd : StartTag → List α
  /-- A text gives what its parts give. -/
  ofText_append : ∀ first second, ofText (first ++ second) = ofText first ++ ofText second

/-- Whether an element with this start tag stays open until its end. -/
def StartTag.opens (tag : StartTag) : Bool :=
  !(tag.selfClosing || isVoidName tag.name)

namespace Event

/-- The start tags of the open elements after an event, the innermost one first. -/
def openAfter (opened : List StartTag) : Event → List StartTag
  | .startTag tag _ => if tag.opens then tag :: opened else opened
  | .endTag name =>
      if opened.any (·.name = name) then (opened.dropWhile (·.name ≠ name)).tail else opened
  | _ => opened

/-- What an event gives when elements with the given start tags are open. -/
def gathered {α : Type} (g : Gathering α) (opened : List StartTag) : Event → List α
  | .startTag tag _ => g.ofStart tag
  | .endTag name =>
      match opened.find? (·.name = name) with
      | some tag => g.ofEnd tag
      | none => g.ofText ("</" ++ name ++ ">")
  | other => (other.rawText?.map g.ofText).getD []

def gatheredAll {α : Type} (g : Gathering α) : List StartTag → List Event → List α
  | _, [] => []
  | opened, event :: events =>
      event.gathered g opened ++ gatheredAll g (event.openAfter opened) events

end Event

section Gathering

variable {α : Type} (g : Gathering α)

mutual

/-- What a node gives. -/
def Node.gathered : Node → List α
  | .raw text => g.ofText text
  | .element ⟨start, _, children, closed⟩ =>
      g.ofStart start ++ Node.gatheredAll children ++ if closed then g.ofEnd start else []
termination_by structural node => node

def Node.gatheredAll : List Node → List α
  | [] => []
  | node :: nodes => node.gathered ++ Node.gatheredAll nodes
termination_by structural nodes => nodes

end

namespace Node

theorem gatheredAll_append (first second : List Node) :
    gatheredAll g (first ++ second) = gatheredAll g first ++ gatheredAll g second := by
  induction first with
  | nil => rfl
  | cons node first ih => simp [gatheredAll, ih]

/-- Joining a text to the text before it changes nothing in what nodes give. -/
theorem gatheredAll_addTo (node : Node) (nodes : List Node) :
    gatheredAll g (node.addTo nodes).reverse =
      gatheredAll g nodes.reverse ++ node.gathered g := by
  unfold addTo
  split
  · simp [gatheredAll_append, gatheredAll, gathered, g.ofText_append]
  · simp [gatheredAll_append, gatheredAll]

end Node

namespace Builder

/-- The start tags of the open elements, the innermost one first. -/
def openTags (b : Builder) : List StartTag :=
  b.stack.map OpenElement.start

/-- What the tree gives as far as it has been built. -/
def gathered (b : Builder) : List α :=
  Node.gatheredAll g b.top.reverse ++
    b.stack.reverse.flatMap fun e => g.ofStart e.start ++ Node.gatheredAll g e.children.reverse

theorem openTags_add (b : Builder) (node : Node) : (b.add node).openTags = b.openTags := by
  obtain ⟨top, stack⟩ := b
  cases stack <;> rfl

theorem gathered_add (b : Builder) (node : Node) :
    (b.add node).gathered g = b.gathered g ++ node.gathered g := by
  obtain ⟨top, stack⟩ := b
  cases stack with
  | nil => simp [add, gathered, Node.gatheredAll_addTo]
  | cons e outer => simp [add, gathered, Node.gatheredAll_addTo]

theorem openTags_closeInnermost (top : List Node) (e : OpenElement) (outer : List OpenElement)
    (closed : Bool) :
    (closeInnermost ⟨top, e :: outer⟩ closed).openTags = outer.map OpenElement.start := by
  rw [closeInnermost, openTags_add]
  rfl

theorem gathered_closeInnermost (top : List Node) (e : OpenElement)
    (outer : List OpenElement) (closed : Bool) :
    (closeInnermost ⟨top, e :: outer⟩ closed).gathered g =
      gathered g ⟨top, e :: outer⟩ ++ if closed then g.ofEnd e.start else [] := by
  rw [closeInnermost, gathered_add]
  simp [gathered, Node.gathered, OpenElement.build]

theorem closeThrough_cons (name : String) (top : List Node) (e : OpenElement)
    (outer : List OpenElement) :
    closeThrough name top (e :: outer) =
      if e.start.name = name then
        closeInnermost ⟨top, e :: outer⟩ true
      else
        closeThrough name (closeInnermost ⟨top, e :: outer⟩ false).top
          (closeInnermost ⟨top, e :: outer⟩ false).stack := by
  rw [closeThrough.eq_def]
  by_cases found : e.start.name = name
  · cases outer <;> simp [found, closeInnermost, add]
  · cases outer with
    | nil => simp [found, closeInnermost, add, closeThrough.eq_def name _ []]
    | cons parent rest => simp [found, closeInnermost, add]

theorem closeAll_cons (top : List Node) (e : OpenElement) (outer : List OpenElement) :
    closeAll top (e :: outer) =
      closeAll (closeInnermost ⟨top, e :: outer⟩ false).top
        (closeInnermost ⟨top, e :: outer⟩ false).stack := by
  cases outer <;> simp [closeInnermost, add, closeAll]

/-- What holds when nothing is open, and before the innermost element is closed if it holds
afterwards, holds of every builder. -/
theorem induction_on_open {P : Builder → Prop} (done : ∀ top, P ⟨top, []⟩)
    (close : ∀ top e outer, (∀ closed, P (closeInnermost ⟨top, e :: outer⟩ closed)) →
      P ⟨top, e :: outer⟩) (b : Builder) : P b := by
  -- Closing an element leaves a builder with one open element less.
  induction tags : b.openTags generalizing b with
  | nil =>
      obtain ⟨top, stack⟩ := b
      obtain rfl : stack = [] := List.map_eq_nil_iff.mp tags
      exact done top
  | cons first others ih =>
      obtain ⟨top, stack⟩ := b
      cases stack with
      | nil => cases tags
      | cons e outer =>
          obtain ⟨rfl, rfl⟩ := List.cons.inj tags
          exact close top e outer fun closed => ih _ (openTags_closeInnermost ..)

theorem isOpen_eq (b : Builder) (name : String) :
    b.isOpen name = b.openTags.any (·.name = name) := by
  simp [isOpen, openTags, Function.comp_def]

/-- An end tag of an open element adds the end of the innermost such element; the
elements inside it are closed without an end tag. -/
theorem gathered_closeThrough {name : String} {b : Builder} {tag : StartTag}
    (found : b.openTags.find? (·.name = name) = some tag) :
    (closeThrough name b.top b.stack).gathered g = b.gathered g ++ g.ofEnd tag ∧
      (closeThrough name b.top b.stack).openTags =
        (b.openTags.dropWhile (·.name ≠ name)).tail := by
  induction b using induction_on_open with
  | done top => cases found
  | close top e outer ih =>
      rw [closeThrough_cons]
      change (e.start :: outer.map OpenElement.start).find? _ = _ at found
      change _ ∧ _ = ((e.start :: outer.map OpenElement.start).dropWhile _).tail
      by_cases named : e.start.name = name
      · obtain rfl : e.start = tag := by simpa [named] using found
        rw [if_pos named, gathered_closeInnermost, openTags_closeInnermost]
        simp [named]
      · have foundInside : (closeInnermost ⟨top, e :: outer⟩ false).openTags.find?
            (·.name = name) = some tag := by
          rw [openTags_closeInnermost]
          simpa [named] using found
        obtain ⟨gives, opened⟩ := ih false foundInside
        rw [if_neg named, gives, opened, gathered_closeInnermost, openTags_closeInnermost]
        simp [named]

theorem handle_startTag (b : Builder) (tag : StartTag) (place : Place) :
    b.handle (.startTag tag place) =
      if tag.opens then ⟨b.top, ⟨tag, place, []⟩ :: b.stack⟩
      else b.add (.element ⟨tag, place, [], false⟩) := by
  cases alone : tag.selfClosing || isVoidName tag.name <;> simp [handle, StartTag.opens, alone]

theorem gathered_handle_startTag (b : Builder) (tag : StartTag) (place : Place) :
    (b.handle (.startTag tag place)).gathered g = b.gathered g ++ g.ofStart tag ∧
      (b.handle (.startTag tag place)).openTags =
        if tag.opens then tag :: b.openTags else b.openTags := by
  rw [handle_startTag]
  split
  · simp [gathered, openTags, Node.gatheredAll]
  · simp [gathered_add, openTags_add, Node.gathered, Node.gatheredAll]

theorem gathered_handle_endTag (b : Builder) (name : String) :
    (b.handle (.endTag name)).gathered g =
        b.gathered g ++ (Event.endTag name).gathered g b.openTags ∧
      (b.handle (.endTag name)).openTags = (Event.endTag name).openAfter b.openTags := by
  simp only [handle, Event.gathered, Event.openAfter, isOpen_eq]
  cases found : b.openTags.find? (·.name = name) with
  | none =>
      have noneOpen : b.openTags.any (·.name = name) = false := by simpa using found
      simp [noneOpen, gathered_add, openTags_add, Node.gathered]
  | some tag =>
      have isOpen : b.openTags.any (·.name = name) = true :=
        List.any_eq_true.mpr
          ⟨tag, List.mem_of_find?_eq_some found, by simpa using List.find?_some found⟩
      rw [if_pos isOpen, if_pos isOpen]
      exact gathered_closeThrough g found

theorem gathered_handle (b : Builder) (event : Event) :
    (b.handle event).gathered g = b.gathered g ++ event.gathered g b.openTags ∧
      (b.handle event).openTags = event.openAfter b.openTags := by
  cases event with
  | startTag tag place => exact gathered_handle_startTag g b tag place
  | endTag name => exact gathered_handle_endTag g b name
  | _ => exact ⟨gathered_add g b _, openTags_add b _⟩

theorem gathered_foldl (b : Builder) (events : List Event) :
    (events.foldl handle b).gathered g =
      b.gathered g ++ Event.gatheredAll g b.openTags events := by
  induction events generalizing b with
  | nil => simp [Event.gatheredAll]
  | cons event events ih =>
      obtain ⟨gives, opened⟩ := gathered_handle g b event
      rw [List.foldl_cons, ih, gives, opened, List.append_assoc]
      rfl

/-- Elements that are left open are closed without an end tag. -/
theorem gathered_finish (b : Builder) : Node.gatheredAll g b.finish = b.gathered g := by
  unfold finish
  induction b using induction_on_open with
  | done top => simp [closeAll, gathered]
  | close top e outer ih =>
      rw [closeAll_cons, ih false, gathered_closeInnermost]
      simp

end Builder

/-- A tree gives what its events give. -/
theorem Template.gatheredAll_ofEvents (events : List Event) :
    Node.gatheredAll g (ofEvents events) = Event.gatheredAll g [] events := by
  rw [ofEvents, Builder.gathered_finish, Builder.gathered_foldl]
  rfl

end Gathering

/-! ### Start tags -/

def Event.startTag? : Event → Option StartTag
  | .startTag tag _ => some tag
  | _ => none

def Gathering.startTags : Gathering StartTag where
  ofText _ := []
  ofStart tag := [tag]
  ofEnd _ := []
  ofText_append _ _ := rfl

mutual

theorem Node.gathered_startTags : ∀ node : Node,
    node.gathered .startTags = node.elements.map Element.start
  | .raw _ => rfl
  | .element ⟨start, place, children, closed⟩ => by
      have inside := Node.gatheredAll_startTags children
      simp [Node.gathered, Node.elements, Gathering.startTags] at inside ⊢
      exact inside
termination_by structural node => node

theorem Node.gatheredAll_startTags : ∀ nodes : List Node,
    Node.gatheredAll .startTags nodes = (Node.elementsOfAll nodes).map Element.start
  | [] => rfl
  | node :: nodes => by
      rw [Node.gatheredAll, Node.elementsOfAll, List.map_append,
        Node.gathered_startTags node, Node.gatheredAll_startTags nodes]
termination_by structural nodes => nodes

end

theorem Event.gatheredAll_startTags (opened : List StartTag) (events : List Event) :
    gatheredAll .startTags opened events = events.filterMap startTag? := by
  induction events generalizing opened with
  | nil => rfl
  | cons event events ih =>
      rw [gatheredAll, ih]
      cases event with
      | endTag name =>
          rw [List.filterMap_cons_none rfl]
          cases found : opened.find? (·.name = name) <;>
            simp [gathered, found, Gathering.startTags]
      | _ => rfl

/-- The elements of a tree have the start tags of its events, in document order. -/
theorem Template.startTags_ofEvents (events : List Event) :
    (Node.elementsOfAll (ofEvents events)).map Element.start =
      events.filterMap Event.startTag? := by
  rw [← Node.gatheredAll_startTags, gatheredAll_ofEvents, Event.gatheredAll_startTags]

/-! ### Elements without content -/

/-- An element that does not stay open has nothing inside and no end tag. -/
def Element.IsSound (e : Element) : Prop :=
  e.start.opens = false → e.children = [] ∧ e.closed = false

/-- All elements that are finished are sound, and the others stay open. -/
def Builder.IsSound (b : Builder) : Prop :=
  (∀ e ∈ Node.elementsOfAll b.top, e.IsSound) ∧
    ∀ o ∈ b.stack, o.start.opens ∧ ∀ e ∈ Node.elementsOfAll o.children, e.IsSound

namespace Node

theorem mem_elementsOfAll {e : Element} {nodes : List Node} :
    e ∈ elementsOfAll nodes ↔ ∃ node ∈ nodes, e ∈ node.elements := by
  induction nodes with
  | nil => simp [elementsOfAll]
  | cons node nodes ih => simp [elementsOfAll, ih]

theorem mem_elementsOfAll_reverse {e : Element} {nodes : List Node} :
    e ∈ elementsOfAll nodes.reverse ↔ e ∈ elementsOfAll nodes := by
  simp [mem_elementsOfAll]

theorem mem_elementsOfAll_addTo {e : Element} {node : Node} {nodes : List Node} :
    e ∈ elementsOfAll (node.addTo nodes) ↔ e ∈ node.elements ∨ e ∈ elementsOfAll nodes := by
  unfold addTo
  split
  · simp [elementsOfAll, elements]
  · simp [elementsOfAll]

end Node

namespace Builder

theorem isSound_add {b : Builder} {node : Node} (sound : b.IsSound)
    (added : ∀ e ∈ node.elements, e.IsSound) : (b.add node).IsSound := by
  obtain ⟨top, stack⟩ := b
  obtain ⟨atTop, inStack⟩ := sound
  cases stack with
  | nil =>
      refine ⟨fun e member => ?_, by simp [add]⟩
      exact (Node.mem_elementsOfAll_addTo.mp member).elim (added e) (atTop e)
  | cons o outer =>
      obtain ⟨⟨stays, inside⟩, others⟩ := List.forall_mem_cons.mp inStack
      refine ⟨atTop, List.forall_mem_cons.mpr ⟨⟨stays, fun e member => ?_⟩, others⟩⟩
      exact (Node.mem_elementsOfAll_addTo.mp member).elim (added e) (inside e)

theorem isSound_closeInnermost {b : Builder} (sound : b.IsSound) (closed : Bool) :
    (b.closeInnermost closed).IsSound := by
  obtain ⟨top, stack⟩ := b
  cases stack with
  | nil => exact sound
  | cons o outer =>
      obtain ⟨atTop, inStack⟩ := sound
      obtain ⟨⟨stays, inside⟩, others⟩ := List.forall_mem_cons.mp inStack
      refine isSound_add ⟨atTop, others⟩ fun e member => ?_
      rcases List.mem_cons.mp member with rfl | member
      · intro alone
        exact absurd (stays.symm.trans alone) Bool.noConfusion
      · exact inside e (Node.mem_elementsOfAll_reverse.mp member)

theorem closeThrough_keeps {P : Builder → Prop}
    (keeps : ∀ b closed, P b → P (b.closeInnermost closed)) (name : String) {b : Builder}
    (holds : P b) : P (closeThrough name b.top b.stack) := by
  induction b using induction_on_open with
  | done top => simpa [closeThrough] using holds
  | close top e outer ih =>
      rw [closeThrough_cons]
      split
      · exact keeps _ true holds
      · exact ih false (keeps _ false holds)

theorem closeAll_keeps {P : Builder → Prop}
    (keeps : ∀ b closed, P b → P (b.closeInnermost closed)) {b : Builder} (holds : P b) :
    P ⟨closeAll b.top b.stack, []⟩ := by
  induction b using induction_on_open with
  | done top => simpa [closeAll] using holds
  | close top e outer ih =>
      rw [closeAll_cons]
      exact ih false (keeps _ false holds)

theorem isSound_handle {b : Builder} (sound : b.IsSound) (event : Event) :
    (b.handle event).IsSound := by
  cases event with
  | startTag tag place =>
      rw [handle_startTag]
      split
      next stays =>
        refine ⟨sound.1, List.forall_mem_cons.mpr ⟨⟨stays, ?_⟩, sound.2⟩⟩
        simp [Node.elementsOfAll]
      next =>
        refine isSound_add sound fun e member => ?_
        obtain rfl : e = ⟨tag, place, [], false⟩ := by
          simpa [Node.elements, Node.elementsOfAll] using member
        exact fun _ => ⟨rfl, rfl⟩
  | endTag name =>
      rw [handle]
      split
      · exact closeThrough_keeps (P := IsSound)
          (fun _ closed holds => isSound_closeInnermost holds closed) name sound
      · exact isSound_add sound (by simp [Node.elements])
  | _ => exact isSound_add sound (by simp [Node.elements])

theorem isSound_foldl {b : Builder} (sound : b.IsSound) (events : List Event) :
    (events.foldl handle b).IsSound := by
  induction events generalizing b with
  | nil => exact sound
  | cons event events ih => exact ih (isSound_handle sound event)

end Builder

theorem Template.isSound_of_mem {events : List Event} {e : Element}
    (member : e ∈ Node.elementsOfAll (ofEvents events)) : e.IsSound := by
  have start : Builder.empty.IsSound := by
    simp [Builder.IsSound, Builder.empty, Node.elementsOfAll]
  have finished := Builder.closeAll_keeps (P := Builder.IsSound)
    (fun _ closed holds => Builder.isSound_closeInnermost holds closed)
    (Builder.isSound_foldl start events)
  exact finished.1 e (Node.mem_elementsOfAll_reverse.mp member)

end LayoutBinding
