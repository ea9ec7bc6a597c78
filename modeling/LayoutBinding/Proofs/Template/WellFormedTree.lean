import LayoutBinding.Proofs.Template.EndTags
import Mathlib.Data.List.Chain

/-!
# Well-formed trees

Whatever events a tree is built from, no two texts stand next to each other at any of its levels,
elements without content are empty and unclosed, and the start tags make up the elements in
document order.  Each end tag closes the innermost open element of its name, or is text if
none is open.
-/

namespace LayoutBinding

/-! ### Texts apart -/

namespace Node

def isRaw : Node → Bool
  | .raw _ => true
  | .element _ => false

/-- No two neighbours are both text. -/
def TextsApart (nodes : List Node) : Prop :=
  nodes.IsChain fun first second => ¬(first.isRaw ∧ second.isRaw)

/-- No two neighbours are both text, among the nodes or inside any of their elements. -/
def AllApart (nodes : List Node) : Prop :=
  TextsApart nodes ∧ ∀ e ∈ elementsOfAll nodes, TextsApart e.children

theorem textsApart_reverse {nodes : List Node} : TextsApart nodes.reverse ↔ TextsApart nodes := by
  rw [TextsApart, List.isChain_reverse]
  simp only [TextsApart, and_comm]

theorem allApart_reverse {nodes : List Node} : AllApart nodes.reverse ↔ AllApart nodes := by
  simp only [AllApart, textsApart_reverse, mem_elementsOfAll_reverse]

theorem TextsApart.addTo {nodes : List Node} (apart : TextsApart nodes) (node : Node) :
    TextsApart (node.addTo nodes) := by
  cases node with
  | element e => exact List.isChain_cons.mpr ⟨fun _ _ both => Bool.noConfusion both.1, apart⟩
  | raw text =>
      cases nodes with
      | nil => exact List.isChain_singleton _
      | cons last others =>
          cases last with
          | raw before => exact List.isChain_cons.mpr (List.isChain_cons.mp apart)
          | element e =>
              exact List.isChain_cons_cons.mpr ⟨fun both => Bool.noConfusion both.2, apart⟩

theorem AllApart.addTo {nodes : List Node} (apart : AllApart nodes) {node : Node}
    (inside : ∀ e ∈ node.elements, TextsApart e.children) : AllApart (node.addTo nodes) := by
  refine ⟨apart.1.addTo node, fun e member => ?_⟩
  exact (mem_elementsOfAll_addTo.mp member).elim (inside e) (apart.2 e)

end Node

namespace Builder

/-- Texts are apart among the finished nodes and inside every open element. -/
def AllApart (b : Builder) : Prop :=
  Node.AllApart b.top ∧ ∀ o ∈ b.stack, Node.AllApart o.children

theorem AllApart.add {b : Builder} (apart : b.AllApart) {node : Node}
    (inside : ∀ e ∈ node.elements, Node.TextsApart e.children) : (b.add node).AllApart := by
  obtain ⟨top, stack⟩ := b
  obtain ⟨atTop, inStack⟩ := apart
  cases stack with
  | nil => exact ⟨atTop.addTo inside, by simp [Builder.add]⟩
  | cons o outer =>
      obtain ⟨innermost, others⟩ := List.forall_mem_cons.mp inStack
      exact ⟨atTop, List.forall_mem_cons.mpr ⟨innermost.addTo inside, others⟩⟩

theorem AllApart.closeInnermost {b : Builder} (apart : b.AllApart) (closed : Bool) :
    (b.closeInnermost closed).AllApart := by
  obtain ⟨top, stack⟩ := b
  cases stack with
  | nil => exact apart
  | cons o outer =>
      obtain ⟨atTop, inStack⟩ := apart
      obtain ⟨innermost, others⟩ := List.forall_mem_cons.mp inStack
      have outside : AllApart ⟨top, outer⟩ := ⟨atTop, others⟩
      have built : Node.AllApart o.children.reverse := Node.allApart_reverse.mpr innermost
      refine outside.add fun e member => ?_
      rcases List.mem_cons.mp member with rfl | member
      · exact built.1
      · exact built.2 e member

theorem AllApart.handle {b : Builder} (apart : b.AllApart) (event : Event) :
    (b.handle event).AllApart := by
  cases event with
  | startTag tag place =>
      rw [handle_startTag]
      split
      · refine ⟨apart.1, List.forall_mem_cons.mpr ⟨⟨List.isChain_nil, ?_⟩, apart.2⟩⟩
        simp [Node.elementsOfAll]
      · refine apart.add fun e member => ?_
        obtain rfl : e = ⟨tag, place, [], false⟩ := by
          simpa [Node.elements, Node.elementsOfAll] using member
        exact List.isChain_nil
  | endTag name =>
      rw [Builder.handle]
      split
      · exact closeThrough_keeps (P := AllApart) (fun _ closed holds => holds.closeInnermost closed)
          name apart
      · exact apart.add (by simp [Node.elements])
  | _ => exact apart.add (by simp [Node.elements])

theorem AllApart.foldl {b : Builder} (apart : b.AllApart) (events : List Event) :
    (events.foldl Builder.handle b).AllApart := by
  induction events generalizing b with
  | nil => exact apart
  | cons event events ih => exact ih (apart.handle event)

end Builder

namespace Template

open Event

theorem allApart_ofEvents (events : List Event) : Node.AllApart (ofEvents events) := by
  have start : Builder.empty.AllApart :=
    ⟨⟨List.isChain_nil, by simp [Builder.empty, Node.elementsOfAll]⟩, by simp [Builder.empty]⟩
  have finished := Builder.closeAll_keeps (P := Builder.AllApart)
    (fun _ closed holds => holds.closeInnermost closed) (start.foldl events)
  exact Node.allApart_reverse.mpr finished.1

/-! ### End tags as text -/

theorem foldl_handle_split {events : List Event} {now : Nat} {event : Event}
    (found : events[now]? = some event) :
    events.foldl Builder.handle .empty =
      (events.drop (now + 1)).foldl Builder.handle
        (((events.take now).foldl Builder.handle .empty).handle event) := by
  obtain ⟨reached, rfl⟩ := List.getElem?_eq_some_iff.mp found
  rw [← List.foldl_cons, ← List.drop_eq_getElem_cons, ← List.foldl_append, List.take_append_drop]

section Stray

variable {events : List Event} {now : Nat} {name : String}

theorem handle_stray (found : events[now]? = some (.endTag name))
    (noneOpen : NoneOpen events now name) :
    ((events.take now).foldl Builder.handle .empty).handle (.endTag name) =
      ((events.take now).foldl Builder.handle .empty).add (.raw ("</" ++ name ++ ">")) := by
  have reached : now ≤ events.length := (List.getElem?_eq_some_iff.mp found).1.le
  have notOpen := (Builder.Tracks.foldl events reached).noneOpen_iff.mp noneOpen
  simp [Builder.handle, notOpen]

/-- Where no element of its name is open, an end tag might have been read as a text. -/
theorem ofEvents_set_data (found : events[now]? = some (.endTag name))
    (noneOpen : NoneOpen events now name) :
    ofEvents (events.set now (.data ("</" ++ name ++ ">"))) = ofEvents events := by
  have reached : now < events.length := (List.getElem?_eq_some_iff.mp found).1
  rw [ofEvents, ofEvents, foldl_handle_split found, handle_stray found noneOpen,
    foldl_handle_split (List.getElem?_set_self reached), List.take_set_of_le le_rfl,
    List.drop_set_of_lt (Nat.lt_succ_self now)]
  rfl

/-- Where no element of its name is open, an end tag is a text behind what was there before. -/
theorem gatheredAll_stray {α : Type} (g : Gathering α) (found : events[now]? = some (.endTag name))
    (noneOpen : NoneOpen events now name) :
    Node.gatheredAll g (ofEvents (events.take now)) ++ g.ofText ("</" ++ name ++ ">") <+:
      Node.gatheredAll g (ofEvents events) := by
  rw [ofEvents, ofEvents, foldl_handle_split found, handle_stray found noneOpen,
    Builder.gathered_finish, Builder.gathered_finish, Builder.gathered_foldl g (.add _ _),
    Builder.gathered_add]
  exact List.prefix_append _ _

end Stray

/-- Whatever the events are, texts are apart at every level of their tree, void and
self-closing elements are empty and unclosed, and the elements in document order are those
of the start tags.  An element is closed if an end tag closes it.  Each end tag closes
one element, the innermost one open with its name, and leaves those inside unclosed for good;
or else none is open with its name, and it is text behind what was there before. -/
theorem ofEvents_wellFormed (events : List Event) :
    let elements := Node.elementsOfAll (ofEvents events)
    (Node.TextsApart (ofEvents events) ∧ ∀ e ∈ elements, Node.TextsApart e.children) ∧
      (∀ e ∈ elements, e.start.selfClosing ∨ e.isVoid → e.children = [] ∧ e.closed = false) ∧
      elements.map (fun e => (e.start, e.place)) = events.filterMap Event.located? ∧
      (∀ number e, elements[number]? = some e →
        (e.closed ↔ ∃ now, Closes events now number)) ∧
      ∀ now name, events[now]? = some (.endTag name) →
        (∃ number e, elements[number]? = some e ∧ e.name = name ∧ e.closed ∧
          Closes events now number ∧ (∀ other, Closes events now other → other = number) ∧
          (∀ later, Closes events later number → later = now) ∧
          ∀ inner e', elements[inner]? = some e' → number < inner → IsOpenAt events now inner →
            e'.closed = false) ∨
        NoneOpen events now name ∧
          ofEvents (events.set now (.data ("</" ++ name ++ ">"))) = ofEvents events ∧
          ∀ {α : Type} (g : Gathering α),
            Node.gatheredAll g (ofEvents (events.take now)) ++ g.ofText ("</" ++ name ++ ">") <+:
              Node.gatheredAll g (ofEvents events) := by
  intro elements
  have starts : elements.map Element.start = events.filterMap startTag? :=
    startTags_ofEvents events
  refine ⟨allApart_ofEvents events, fun e member alone => ?_, located_ofEvents events,
    fun number e found => closed_ofEvents found, fun now name found => ?_⟩
  · refine isSound_of_mem member ?_
    rcases alone with selfClosing | isVoid
    · simp [StartTag.opens, selfClosing]
    · simp [StartTag.opens, show isVoidName e.start.name from isVoid]
  · rcases exists_closes_or_noneOpen found with ⟨number, closes, tag, started, named⟩ | noneOpen
    · rw [← starts, List.getElem?_map] at started
      obtain ⟨e, among, rfl⟩ := Option.map_eq_some_iff.mp started
      refine .inl ⟨number, e, among, named, (closed_ofEvents among).mpr ⟨now, closes⟩, closes,
        fun _ => closes.unique, fun _ => closes.unique_moment,
        fun inner e' amongInner inside isOpen => ?_⟩
      refine Bool.eq_false_iff.mpr fun closed => ?_
      obtain ⟨later, closesInner⟩ := (closed_ofEvents amongInner).mp closed
      exact closes.not_closes_inside inside isOpen closesInner
    · exact .inr ⟨noneOpen, ofEvents_set_data found noneOpen,
        fun g => gatheredAll_stray g found noneOpen⟩

/-- A list whose end tag comes before the one of its item. -/
def lateItem : List Event :=
  [.startTag ⟨"ul", [], "<ul>", "ul", [], false⟩ .start,
    .startTag ⟨"li", [], "<li>", "li", [], false⟩ .start, .data "a", .endTag "ul", .endTag "li",
    .data "b"]

theorem ofEvents_wellFormed_lateItem :
    (Node.elementsOfAll (ofEvents lateItem)).map (fun e => (e.name, e.closed)) =
        [("ul", true), ("li", false)] ∧
      (∃ now, Closes lateItem now 0) ∧ (∀ now, ¬Closes lateItem now 1) ∧
      NoneOpen lateItem 4 "li" ∧
      ofEvents (lateItem.set 4 (.data "</li>")) = ofEvents lateItem := by
  have flags : (Node.elementsOfAll (ofEvents lateItem)).map (fun e => (e.name, e.closed)) =
      [("ul", true), ("li", false)] := by
    decide +kernel
  obtain ⟨-, -, -, closed, ends⟩ := ofEvents_wellFormed lateItem
  obtain ⟨list, others, whole, first, rest⟩ := List.map_eq_cons_iff.mp flags
  obtain ⟨item, others, rfl, second, rest⟩ := List.map_eq_cons_iff.mp rest
  obtain rfl : others = [] := List.map_eq_nil_iff.mp rest
  obtain ⟨listName, listClosed⟩ := Prod.mk.inj first
  obtain ⟨itemName, itemUnclosed⟩ := Prod.mk.inj second
  have closesList := (closed 0 list (by rw [whole]; rfl)).mp listClosed
  have leavesItem := mt (closed 1 item (by rw [whole]; rfl)).mpr (by simp [itemUnclosed])
  refine ⟨flags, closesList, not_exists.mp leavesItem, ?_⟩
  rcases ends 4 "li" rfl with ⟨number, e, found, named, isClosed, -⟩ | ⟨noneOpen, asText, -⟩
  · -- No element of that name is closed.
    rw [whole] at found
    have member := List.mem_of_getElem? found
    simp only [List.mem_cons, List.not_mem_nil, or_false] at member
    rcases member with rfl | rfl
    · simp [listName] at named
    · simp [itemUnclosed] at isClosed
  · exact ⟨noneOpen, asText⟩

end Template

end LayoutBinding
