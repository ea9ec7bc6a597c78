import LayoutBinding.Proofs.Template.Gathering

/-!
# Outlines

The outline of a tree keeps the names of its elements and how they are nested, and nothing
else.  Events build the outline alone: what matters is the order of the tags, their names, and
which start tags stay open.
-/

namespace LayoutBinding

/-- The name of an element and the elements inside it. -/
inductive Outline where
  | element (name : String) (inside : List Outline)

namespace Outline

mutual

def decEq : (first second : Outline) → Decidable (first = second)
  | .element name inside, .element name' inside' =>
      match instDecidableEqString name name', decEqAll inside inside' with
      | isTrue names, isTrue same => isTrue (by rw [names, same])
      | isFalse names, _ => isFalse fun same => names (element.inj same).1
      | _, isFalse other => isFalse fun same => other (element.inj same).2
termination_by structural first => first

def decEqAll : (first second : List Outline) → Decidable (first = second)
  | [], [] => isTrue rfl
  | [], _ :: _ => isFalse nofun
  | _ :: _, [] => isFalse nofun
  | a :: first, b :: second =>
      match decEq a b, decEqAll first second with
      | isTrue head, isTrue tail => isTrue (by rw [head, tail])
      | isFalse head, _ => isFalse fun same => head (List.cons.inj same).1
      | _, isFalse tail => isFalse fun same => tail (List.cons.inj same).2
termination_by structural first => first

end

instance : DecidableEq Outline :=
  decEq

end Outline

mutual

/-- The elements of a node that are not inside another one of it. -/
def Node.outline : Node → List Outline
  | .raw _ => []
  | .element ⟨start, _, children, _⟩ => [.element start.name (Node.outlineAll children)]
termination_by structural node => node

def Node.outlineAll : List Node → List Outline
  | [] => []
  | node :: nodes => node.outline ++ Node.outlineAll nodes
termination_by structural nodes => nodes

end

/-- A start tag of which only its name and whether it stays open matter. -/
def StartTag.nameOnly (tag : StartTag) : StartTag :=
  ⟨tag.name, [], "", tag.name, [], !tag.opens⟩

/-- What an event is for the nesting of elements, if it is a tag. -/
def Event.tagOnly? : Event → Option Event
  | .startTag tag _ => some (.startTag tag.nameOnly .start)
  | .endTag name => some (.endTag name)
  | _ => none

theorem StartTag.opens_nameOnly (tag : StartTag) : tag.nameOnly.opens = tag.opens := by
  unfold nameOnly opens
  cases tag.selfClosing <;> cases isVoidName tag.name <;> rfl

namespace Node

theorem outlineAll_append (first second : List Node) :
    outlineAll (first ++ second) = outlineAll first ++ outlineAll second := by
  induction first with
  | nil => rfl
  | cons node first ih => rw [List.cons_append, outlineAll, outlineAll, ih, List.append_assoc]

theorem outlineAll_addTo (node : Node) (nodes : List Node) :
    outlineAll (node.addTo nodes).reverse = outlineAll nodes.reverse ++ node.outline := by
  unfold addTo
  split <;> simp [outlineAll_append, outlineAll, outline]

end Node

namespace Builder

/-- The outline of what is finished, and the open elements with the outlines inside them. -/
def sketch (b : Builder) : List Outline × List (String × List Outline) :=
  (Node.outlineAll b.top.reverse,
    b.stack.map fun e => (e.start.name, Node.outlineAll e.children.reverse))

variable {b b' : Builder}

theorem sketch_eq_iff {top top' : List Node} {stack stack' : List OpenElement} :
    sketch ⟨top, stack⟩ = sketch ⟨top', stack'⟩ ↔
      Node.outlineAll top.reverse = Node.outlineAll top'.reverse ∧
        stack.map (fun e => (e.start.name, Node.outlineAll e.children.reverse)) =
          stack'.map fun e => (e.start.name, Node.outlineAll e.children.reverse) :=
  Prod.ext_iff

/-- Nodes with the same outline make the same difference. -/
theorem sketch_add (same : b.sketch = b'.sketch) {node node' : Node}
    (added : node.outline = node'.outline) : (b.add node).sketch = (b'.add node').sketch := by
  obtain ⟨top, stack⟩ := b
  obtain ⟨top', stack'⟩ := b'
  obtain ⟨tops, nested⟩ := sketch_eq_iff.mp same
  cases stack with
  | nil =>
      obtain rfl : stack' = [] := List.map_eq_nil_iff.mp nested.symm
      refine sketch_eq_iff.mpr ⟨?_, rfl⟩
      rw [Node.outlineAll_addTo, Node.outlineAll_addTo, tops, added]
  | cons e outer =>
      obtain ⟨e', outer', rfl, first, others⟩ := List.map_eq_cons_iff.mp nested.symm
      obtain ⟨names, inside⟩ := Prod.mk.inj first
      refine sketch_eq_iff.mpr ⟨tops, ?_⟩
      rw [List.map_cons, List.map_cons, Node.outlineAll_addTo, Node.outlineAll_addTo, others, names,
        inside, added]

theorem sketch_add_raw (b : Builder) (text : String) : (b.add (.raw text)).sketch = b.sketch := by
  obtain ⟨top, stack⟩ := b
  cases stack <;> simp [add, sketch, Node.outlineAll_addTo, Node.outline]

theorem sketch_closeInnermost (same : b.sketch = b'.sketch) (closed closed' : Bool) :
    (b.closeInnermost closed).sketch = (b'.closeInnermost closed').sketch := by
  obtain ⟨top, stack⟩ := b
  obtain ⟨top', stack'⟩ := b'
  obtain ⟨tops, nested⟩ := sketch_eq_iff.mp same
  cases stack with
  | nil =>
      obtain rfl : stack' = [] := List.map_eq_nil_iff.mp nested.symm
      exact same
  | cons e outer =>
      obtain ⟨e', outer', rfl, first, others⟩ := List.map_eq_cons_iff.mp nested.symm
      obtain ⟨names, inside⟩ := Prod.mk.inj first
      apply sketch_add
      · exact sketch_eq_iff.mpr ⟨tops, others.symm⟩
      · simp only [OpenElement.build, Node.outline, names, inside]

theorem sketch_closeThrough (same : b.sketch = b'.sketch) (name : String) :
    (closeThrough name b.top b.stack).sketch = (closeThrough name b'.top b'.stack).sketch := by
  induction b using induction_on_open generalizing b' with
  | done top =>
      obtain ⟨top', stack'⟩ := b'
      obtain ⟨-, nested⟩ := sketch_eq_iff.mp same
      obtain rfl : stack' = [] := List.map_eq_nil_iff.mp nested.symm
      simpa [closeThrough] using same
  | close top e outer ih =>
      obtain ⟨top', stack'⟩ := b'
      obtain ⟨-, nested⟩ := sketch_eq_iff.mp same
      obtain ⟨e', outer', rfl, first, -⟩ := List.map_eq_cons_iff.mp nested.symm
      obtain ⟨names, -⟩ := Prod.mk.inj first
      rw [closeThrough_cons, closeThrough_cons, names]
      split
      · exact sketch_closeInnermost same true true
      · exact ih false (sketch_closeInnermost same false false)

theorem outlineAll_finish (same : b.sketch = b'.sketch) :
    Node.outlineAll b.finish = Node.outlineAll b'.finish := by
  unfold finish
  induction b using induction_on_open generalizing b' with
  | done top =>
      obtain ⟨top', stack'⟩ := b'
      obtain ⟨tops, nested⟩ := sketch_eq_iff.mp same
      obtain rfl : stack' = [] := List.map_eq_nil_iff.mp nested.symm
      simpa [closeAll] using tops
  | close top e outer ih =>
      obtain ⟨top', stack'⟩ := b'
      obtain ⟨-, nested⟩ := sketch_eq_iff.mp same
      obtain ⟨e', outer', rfl, -, -⟩ := List.map_eq_cons_iff.mp nested.symm
      rw [closeAll_cons, closeAll_cons]
      exact ih false (sketch_closeInnermost same false false)

theorem isOpen_of_sketch (same : b.sketch = b'.sketch) (name : String) :
    b.isOpen name = b'.isOpen name := by
  have names := congrArg (List.map Prod.fst) (Prod.mk.inj same).2
  rw [List.map_map, List.map_map] at names
  have opened (b : Builder) : b.isOpen name =
      (b.stack.map fun e => e.start.name).any fun n => n = name := by
    rw [isOpen, List.any_map]
    rfl
  rw [opened, opened]
  exact congrArg (List.any · fun n => n = name) names

/-- A tag makes the same difference as the bare tag. -/
theorem sketch_handle (same : b.sketch = b'.sketch) {event bare : Event}
    (isTag : event.tagOnly? = some bare) : (b.handle event).sketch = (b'.handle bare).sketch := by
  cases event with
  | startTag tag place =>
      cases isTag
      rw [handle_startTag, handle_startTag, StartTag.opens_nameOnly]
      split
      · obtain ⟨tops, nested⟩ := Prod.mk.inj same
        refine sketch_eq_iff.mpr ⟨tops, ?_⟩
        rw [List.map_cons, List.map_cons, nested]
        rfl
      · exact sketch_add same rfl
  | endTag name =>
      cases isTag
      rw [handle, handle, isOpen_of_sketch same]
      split
      · exact sketch_closeThrough same name
      · exact sketch_add same rfl
  | _ => cases isTag

theorem sketch_handle_of_none {event : Event} (noTag : event.tagOnly? = none) (b : Builder) :
    (b.handle event).sketch = b.sketch := by
  cases event with
  | startTag => cases noTag
  | endTag => cases noTag
  | _ => exact sketch_add_raw b _

theorem sketch_foldl (same : b.sketch = b'.sketch) (events : List Event) :
    (events.foldl handle b).sketch = ((events.filterMap Event.tagOnly?).foldl handle b').sketch := by
  induction events generalizing b b' with
  | nil => exact same
  | cons event events ih =>
      rw [List.foldl_cons]
      cases isTag : event.tagOnly? with
      | none =>
          rw [List.filterMap_cons_none isTag]
          exact ih ((sketch_handle_of_none isTag b).trans same)
      | some bare =>
          rw [List.filterMap_cons_some isTag, List.foldl_cons]
          exact ih (sketch_handle same isTag)

end Builder

/-- Events with the same tags, the details aside, build trees with the same nesting. -/
theorem Template.outlineAll_ofEvents {first second : List Event}
    (same : first.filterMap Event.tagOnly? = second.filterMap Event.tagOnly?) :
    Node.outlineAll (ofEvents first) = Node.outlineAll (ofEvents second) := by
  apply Builder.outlineAll_finish
  rw [Builder.sketch_foldl rfl first, same, ← Builder.sketch_foldl rfl second]

end LayoutBinding
