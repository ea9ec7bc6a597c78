import LayoutBinding.Proofs.Template.LoopUnrolling
import LayoutBinding.Proofs.Template.Output

/-!
# Transcripts

A tree without directives and without expressions is rendered as the texts of its
events, one after the other.  An end tag is written like the start tag that it closes.
-/

namespace LayoutBinding

/-- Whether an attribute is the same in every context. -/
def Attribute.IsPlain (a : Attribute) : Prop :=
  Directive.ofName? a.name = none ∧ ∀ value ∈ a.value, '$' ∉ value.toList

instance : DecidablePred Attribute.IsPlain := fun a =>
  inferInstanceAs (Decidable (Directive.ofName? a.name = none ∧ ∀ value ∈ a.value, _))

namespace StartTag

/-- Whether a start tag is the same in every context. -/
def IsPlain (tag : StartTag) : Prop :=
  ∀ a ∈ tag.attributes, a.IsPlain

instance : DecidablePred IsPlain := fun tag =>
  inferInstanceAs (Decidable (∀ a ∈ tag.attributes, a.IsPlain))

def attributeText (writtenName : String) (a : Attribute) : String :=
  match a.value with
  | none => " " ++ writtenName
  | some value => " " ++ writtenName ++ "=\"" ++ escapeHtml value ++ "\""

/-- The text of a tag: as it was written, or else made of its parts. -/
def text (tag : StartTag) : String :=
  if tag.raw = "" then
    "<" ++ tag.writtenName ++
      String.join ((tag.writtenAttributes.zip tag.attributes).map fun (writtenName, a) =>
        attributeText writtenName a) ++
      if tag.selfClosing && isVoidName tag.name then " />" else ">"
  else
    tag.raw

end StartTag

namespace Event

/-- The text of an event when elements with the given start tags are open, the innermost
one first.  An end tag has the name of the element that it closes as it was written. -/
def text (opened : List StartTag) : Event → String
  | .startTag tag _ => tag.text
  | .endTag name =>
      match opened.find? (·.name = name) with
      | some tag => tag.endTag
      | none => "</" ++ name ++ ">"
  | .data text => text
  | .nameReference name => "&" ++ name ++ ";"
  | .numberReference digits => "&#" ++ digits ++ ";"
  | .comment text => "<!--" ++ text ++ "-->"
  | .declaration text => "<!" ++ text ++ ">"
  | .instruction text => "<?" ++ text ++ ">"
  | .section text => "<![" ++ text ++ "]>"

def transcript : List StartTag → List Event → String
  | _, [] => ""
  | opened, event :: events => event.text opened ++ transcript (event.openAfter opened) events

end Event

def Gathering.characters : Gathering Char where
  ofText := String.toList
  ofStart tag := tag.text.toList
  ofEnd tag := tag.endTag.toList
  ofText_append _ _ := String.toList_append

theorem Event.gatheredAll_characters (opened : List StartTag) (events : List Event) :
    gatheredAll .characters opened events = (transcript opened events).toList := by
  induction events generalizing opened with
  | nil => rfl
  | cons event events ih =>
      have first : event.gathered .characters opened = (event.text opened).toList := by
        cases event with
        | endTag name =>
            rw [gathered, text]
            cases opened.find? (·.name = name) <;> rfl
        | _ => rfl
      rw [gatheredAll, transcript, String.toList_append, first, ih]

namespace Element

theorem bindings_of_noDirectives (names : List String) {e : Element}
    (none : ∀ a ∈ e.start.attributes, Directive.ofName? a.name = none) :
    e.bindings names = .ok [] := by
  refine bindings_eq_ok_iff.mpr ⟨[], ?_, by simp⟩
  have noDirective : (e.start.attributes.filterMap fun a =>
      (Directive.ofName? a.name).map fun directive => (directive, a.value)) = [] := by
    rw [List.filterMap_eq_nil_iff]
    intro a member
    rw [none a member, Option.map_none]
  rw [bindingsOf, noDirective]
  rfl

theorem bindings_of_isPlain (names : List String) {e : Element} (plain : e.start.IsPlain) :
    e.bindings names = .ok [] :=
  bindings_of_noDirectives names fun a member => (plain a member).1

end Element

namespace Renderer

theorem changesTag_of_isPlain {a : Attribute} (plain : a.IsPlain) : changesTag a = false := by
  obtain ⟨noDirective, noDollar⟩ := plain
  rw [changesTag, noDirective]
  cases given : a.value with
  | none => rfl
  | some value =>
      have absent := noDollar value given
      simpa [mayHoldExpression] using absent

theorem attributeText_of_isPlain (r : Renderer) (context : Context) (writtenName : String)
    {a : Attribute} (plain : a.IsPlain) :
    r.attributeText context writtenName a = .ok (StartTag.attributeText writtenName a) := by
  obtain ⟨noDirective, noDollar⟩ := plain
  rw [attributeText, noDirective, StartTag.attributeText]
  cases given : a.value with
  | none => rfl
  | some value =>
      have absent : mayHoldExpression value = false := by
        simpa [mayHoldExpression] using noDollar value given
      simp only [absent]
      rfl

theorem startTag_of_isPlain (r : Renderer) (context : Context) {e : Element}
    (plain : e.start.IsPlain) : r.startTag context e = .ok e.start.text := by
  have unchanged : e.start.attributes.any changesTag = false :=
    List.any_eq_false.mpr fun a member => by simp [changesTag_of_isPlain (plain a member)]
  by_cases raw : e.start.raw = ""
  · have part : ∀ written ∈ e.start.writtenAttributes.zip e.start.attributes,
        r.attributeText context written.1 written.2 =
          .ok (StartTag.attributeText written.1 written.2) :=
      fun written member => r.attributeText_of_isPlain context written.1
        (plain written.2 (List.of_mem_zip member).2)
    rw [startTag_eq_of_changed r context e (by simp [raw]), mapM_eq_pure_map part, StartTag.text,
      if_pos raw]
    rfl
  · simp only [startTag, StartTag.text]
    rw [if_neg (by simp [unchanged, raw]), if_neg raw]

/-- What a plain element is rendered to, given what is inside it. -/
theorem element_of_isPlain (r : Renderer) {e : Element} (context : Context)
    {inside : Context → Outcome String} {content : String} (plain : e.start.IsPlain)
    (sound : e.IsSound) (gives : inside context = .ok content)
    (nothing : e.children = [] → content = "") :
    r.element e inside context =
      .ok (e.start.text ++ content ++ if e.closed then e.start.endTag else "") := by
  have bound := Element.bindings_of_isPlain r.names plain
  have start := r.startTag_of_isPlain context plain
  rw [element, bound]
  change Outcome.withLocation (r.emit e inside context none) e.location = _
  cases alone : e.start.opens with
  | false =>
      obtain ⟨empty, unclosed⟩ := sound alone
      rw [emit_of_alone r inside context alone, start, nothing empty, unclosed]
      simp [Outcome.withLocation]
  | true =>
      rw [emit_of_opens r inside context alone, start, gives]
      rfl

mutual

theorem node_of_isPlain (r : Renderer) (context : Context) : ∀ node : Node,
    (∀ e ∈ node.elements, e.start.IsPlain ∧ e.IsSound) →
      r.node node context = .ok (String.ofList (node.gathered .characters))
  | .raw text, _ => by
      simp [node, Node.gathered, Gathering.characters]
  | .element ⟨start, place, children, closed⟩, plain => by
      rw [Node.elements, List.forall_mem_cons] at plain
      have inside := nodes_of_isPlain r context children plain.2
      rw [node, element_of_isPlain r context plain.1.1 plain.1.2 inside ?_]
      · cases closed <;> simp [Node.gathered, Gathering.characters, String.append_assoc]
      · rintro rfl
        rfl
termination_by structural node => node

theorem nodes_of_isPlain (r : Renderer) (context : Context) : ∀ nodes : List Node,
    (∀ e ∈ Node.elementsOfAll nodes, e.start.IsPlain ∧ e.IsSound) →
      r.nodes nodes context = .ok (String.ofList (Node.gatheredAll .characters nodes))
  | [], _ => rfl
  | node :: others, plain => by
      rw [Node.elementsOfAll, List.forall_mem_append] at plain
      rw [nodes, node_of_isPlain r context node plain.1, nodes_of_isPlain r context others plain.2,
        Node.gatheredAll, String.ofList_append]
      rfl
termination_by structural nodes => nodes

end

/-- The tree of any events is rendered as the texts of the events in order, if their start
tags bind nothing and hold no dollar sign.  Elements that are left open or that are
closed from outside have no end tag. -/
theorem template_ofEvents_eq_transcript (r : Renderer) (events : List Event)
    (plain : ∀ tag ∈ events.filterMap Event.startTag?, tag.IsPlain) (name : Option String)
    (context : Context) :
    r.template ⟨Template.ofEvents events, name⟩ context = .ok (Event.transcript [] events) := by
  have sound : ∀ e ∈ Node.elementsOfAll (Template.ofEvents events),
      e.start.IsPlain ∧ e.IsSound := by
    intro e member
    refine ⟨plain e.start ?_, Template.isSound_of_mem member⟩
    rw [← Template.startTags_ofEvents]
    exact List.mem_map_of_mem member
  rw [template, r.nodes_of_isPlain context _ sound, Template.gatheredAll_ofEvents,
    Event.gatheredAll_characters, String.ofList_toList]

/-- A list that is closed around an open item and an open emphasis. -/
def unclosedItem : List Event :=
  [.declaration "DOCTYPE html",
    .startTag ⟨"ul", [⟨"class", some "x"⟩], "<UL class=x>", "UL", ["class"], false⟩ .start,
    .instruction "go?", .startTag ⟨"li", [], "<li>", "li", [], false⟩ .start, .data "a",
    .startTag ⟨"br", [], "<br/>", "br", [], true⟩ .start, .nameReference "amp",
    .numberReference "38", .startTag ⟨"b", [], "<b >", "b", [], false⟩ .start, .comment " b ",
    .section "CDATA[c]", .endTag "ul", .endTag "li"]

theorem template_ofEvents_eq_transcript_unclosedItem :
    (∀ tag ∈ unclosedItem.filterMap Event.startTag?, tag.IsPlain) ∧
      (∀ r : Renderer, ∀ context,
        r.template ⟨Template.ofEvents unclosedItem, none⟩ context =
          .ok (Event.transcript [] unclosedItem)) ∧
      Event.transcript [] unclosedItem =
        "<!DOCTYPE html><UL class=x><?go?><li>a<br/>&amp;&#38;<b ><!-- b --><![CDATA[c]]></UL></li>" := by
  have plain : ∀ tag ∈ unclosedItem.filterMap Event.startTag?, tag.IsPlain := by decide
  exact ⟨plain, fun r context => r.template_ofEvents_eq_transcript unclosedItem plain none context,
    by decide⟩

end Renderer

end LayoutBinding
