import LayoutBinding.Forest
import LayoutBinding.Template.Basic

/-!
# Document order

The elements of a template are met when its nodes are walked with a stack of the nodes that are
still to come: each element before those inside it, and these before whatever follows the element.
-/

namespace LayoutBinding

/-- The nodes inside a node. -/
def Node.inside : Node → List Node
  | .raw _ => []
  | .element e => e.children

instance : Branching Node where
  below := Node.inside
  sizeOf_below_lt node := by
    cases node with
    | raw text =>
        cases text
        simp only [Node.inside, List.nil.sizeOf_spec, Node.raw.sizeOf_spec,
          String.ofByteArray.sizeOf_spec]
        omega
    | element e =>
        cases e
        simp only [Node.inside, Node.element.sizeOf_spec, Element.mk.sizeOf_spec]
        omega

namespace Node

def element? : Node → Option Element
  | .raw _ => none
  | .element e => some e

/-- The element at a position among nodes: the number of a node, and then the numbers of the
nodes on the way to the element. -/
def elementAmong? (nodes : List Node) (position : List Nat) : Option Element :=
  (Forest.at? nodes position).bind element?

/-- The elements that are met while nodes are taken from a stack, whose first node is the
topmost one, and the nodes inside each of them are put on it. -/
def walk (stack : List Node) : List Element :=
  Id.run (Forest.walk (fun met node => pure (met ++ node.element?.toList)) [] stack)

@[simp]
theorem elementsOfAll_append (first second : List Node) :
    elementsOfAll (first ++ second) = elementsOfAll first ++ elementsOfAll second := by
  induction first with
  | nil => rfl
  | cons node first ih => simp [elementsOfAll, ih]

theorem elementsOfAll_eq_filterMap (nodes : List Node) :
    elementsOfAll nodes = (Forest.inOrder nodes).filterMap element? := by
  induction nodes using Forest.induction_on_below with
  | nil => simp [elementsOfAll]
  | cons node nodes inside after =>
      rw [elementsOfAll, after, Forest.inOrder_cons, List.filterMap_cons, List.filterMap_append]
      cases node with
      | raw text => rw [← inside]; rfl
      | element e =>
          rw [← inside]
          cases e
          rfl

/-- The walk meets the elements of the nodes on the stack, one node after the other. -/
theorem walk_eq_elementsOfAll (stack : List Node) : walk stack = elementsOfAll stack := by
  rw [walk, Forest.walk_eq_foldlM, List.foldlM_pure, Id.run_pure, elementsOfAll_eq_filterMap,
    List.filterMap_eq_flatMap_toList, List.flatMap_eq_foldl]

/-- The walk goes through the positions of the elements in ascending order, and meets the
element at each of them. -/
theorem exists_positions (nodes : List Node) :
    ∃ positions : List (List Nat), positions.Pairwise (· < ·) ∧
      (∀ position, position ∈ positions ↔ ∃ e, elementAmong? nodes position = some e) ∧
      walk nodes = positions.filterMap (elementAmong? nodes) := by
  obtain ⟨visits, order, visited⟩ := Forest.exists_isDocumentOrder nodes
  rw [walk_eq_elementsOfAll, elementsOfAll_eq_filterMap, ← visited]
  exact order.exists_positions element?

end Node

end LayoutBinding
