import LayoutBinding.Proofs.Template.Pieces
import LayoutBinding.Proofs.Template.Transcript

/-!
# Templates without directives

A template without directives is written out event by event in every context: only the values
in its start tags depend on the context.
-/

namespace LayoutBinding

namespace Renderer

/-- What a start tag is rendered to, if its expressions evaluate. -/
def tagText (r : Renderer) (context : Context) (tag : StartTag) : String :=
  (r.startTag context ⟨tag, .start, [], false⟩).toOption.getD ""

end Renderer

/-- The characters of all texts, with start tags as they are rendered. -/
def Gathering.rendered (r : Renderer) (context : Context) : Gathering Char where
  ofText := String.toList
  ofStart tag := (r.tagText context tag).toList
  ofEnd tag := tag.endTag.toList
  ofText_append _ _ := String.toList_append

namespace Renderer

variable (r : Renderer) {context : Context}

/-- A start tag does not depend on where its element stands or on what is inside. -/
theorem startTag_congr {e e' : Element} (same : e.start = e'.start) :
    r.startTag context e = r.startTag context e' := by
  obtain ⟨start, place, children, closed⟩ := e
  obtain ⟨start', place', children', closed'⟩ := e'
  obtain rfl : start = start' := same
  rfl

theorem tagText_eq {e : Element} {text : String} (rendered : r.startTag context e = .ok text) :
    r.tagText context e.start = text := by
  have same : r.startTag context ⟨e.start, .start, [], false⟩ = r.startTag context e :=
    r.startTag_congr rfl
  rw [tagText, same, rendered]
  rfl

/-- What an element without directives is rendered to, if it is rendered. -/
theorem exists_of_element {e : Element} {inside : Context → Outcome String} {out : String}
    (noDirectives : ∀ a ∈ e.start.attributes, Directive.ofName? a.name = none)
    (rendered : r.element e inside context = .ok out) :
    ∃ start, r.startTag context e = .ok start ∧
      if e.start.opens then
        ∃ inner, inside context = .ok inner ∧
          out = start ++ inner ++ if e.closed then e.start.endTag else ""
      else out = start := by
  rw [element, Element.bindings_of_noDirectives r.names noDirectives] at rendered
  have emitted : r.emit e inside context none = .ok out := Outcome.annotate_eq_ok_iff.mp rendered
  cases opens : e.start.opens with
  | true =>
      rw [r.emit_of_opens inside context opens] at emitted
      obtain ⟨start, started, emitted⟩ := bind_eq_ok_iff.mp emitted
      obtain ⟨inner, filled, made⟩ := bind_eq_ok_iff.mp emitted
      exact ⟨start, started, inner, filled, (Except.ok.inj made).symm⟩
  | false =>
      rw [r.emit_of_alone inside context opens] at emitted
      exact ⟨out, emitted, rfl⟩

mutual

theorem toList_of_node : ∀ (node : Node) {out : String},
    (∀ e ∈ node.elements, (∀ a ∈ e.start.attributes, Directive.ofName? a.name = none) ∧
      e.IsSound) →
    r.node node context = .ok out →
      out.toList = node.gathered (.rendered r context) ∧
        ∀ e ∈ node.elements, ∃ text, r.startTag context e = .ok text
  | .raw text, out, _, rendered => by
      cases rendered
      exact ⟨rfl, List.forall_mem_nil _⟩
  | .element ⟨start, place, children, closed⟩, out, given, rendered => by
      rw [Node.elements, List.forall_mem_cons] at given
      obtain ⟨⟨noDirectives, sound⟩, given⟩ := given
      rw [node] at rendered
      obtain ⟨tag, started, written⟩ := r.exists_of_element noDirectives rendered
      have text := r.tagText_eq started
      rw [Node.elements, Node.gathered, List.forall_mem_cons]
      change r.tagText context start = tag at text
      change if start.opens then _ else _ at written
      cases opens : start.opens with
      | true =>
          rw [opens] at written
          obtain ⟨inner, filled, rfl⟩ := written
          obtain ⟨same, others⟩ := toList_of_nodes children given filled
          refine ⟨?_, ⟨tag, started⟩, others⟩
          rw [String.toList_append, String.toList_append, same, ← text]
          cases closed <;> rfl
      | false =>
          rw [opens] at written
          obtain ⟨empty, unclosed⟩ := sound opens
          dsimp only at empty unclosed
          subst empty unclosed
          refine ⟨?_, ⟨tag, started⟩, List.forall_mem_nil _⟩
          obtain rfl : out = tag := written
          simp [Node.gatheredAll, Gathering.rendered, text]
termination_by structural node => node

theorem toList_of_nodes : ∀ (nodes : List Node) {out : String},
    (∀ e ∈ Node.elementsOfAll nodes,
      (∀ a ∈ e.start.attributes, Directive.ofName? a.name = none) ∧ e.IsSound) →
    r.nodes nodes context = .ok out →
      out.toList = Node.gatheredAll (.rendered r context) nodes ∧
        ∀ e ∈ Node.elementsOfAll nodes, ∃ text, r.startTag context e = .ok text
  | [], out, _, rendered => by
      cases rendered
      exact ⟨rfl, List.forall_mem_nil _⟩
  | node :: others, out, given, rendered => by
      rw [Node.elementsOfAll, List.forall_mem_append] at given
      rw [nodes] at rendered
      obtain ⟨first, one, rendered⟩ := bind_eq_ok_iff.mp rendered
      obtain ⟨rest, more, made⟩ := bind_eq_ok_iff.mp rendered
      cases made
      obtain ⟨same, starts⟩ := toList_of_node node given.1 one
      obtain ⟨sameRest, startsRest⟩ := toList_of_nodes others given.2 more
      rw [Node.gatheredAll, Node.elementsOfAll, List.forall_mem_append, String.toList_append, same,
        sameRest]
      exact ⟨rfl, starts, startsRest⟩
termination_by structural nodes => nodes

end

end Renderer

end LayoutBinding
