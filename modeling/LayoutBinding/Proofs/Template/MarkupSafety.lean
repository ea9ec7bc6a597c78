import Mathlib.Data.List.Forall2
import LayoutBinding.Proofs.Template.RenderingOrder
import LayoutBinding.Proofs.Text.Escaping

/-!
# Data is no markup

In a template that inserts no HTML the characters that open or close markup do not
depend on the data: two contexts whose loops take the same numbers of turns give
outputs with the same characters of this sort.
-/

namespace LayoutBinding

/-- The characters of a text that can open or close markup or an attribute value. -/
def markupOf (text : String) : List Char :=
  text.toList.filter Escape.isMarkupChar

@[simp]
theorem markupOf_append (first second : String) :
    markupOf (first ++ second) = markupOf first ++ markupOf second := by
  simp [markupOf]

@[simp]
theorem markupOf_escapeHtml (text : String) : markupOf (escapeHtml text) = [] := by
  simp [markupOf, escapeHtml, Escape.isEscaping_encode.noMarkup]

namespace Renderer

/-- The number of turns that a visit begins, if it evaluates the expression of a loop. -/
def turns? (r : Renderer) (v : Visit) : Option Nat :=
  match v.duty with
  | .loop expression context => (r.items context expression).toOption.map List.length
  | _ => none

/-- The lengths of the sequences that are looped over on visits, in order. -/
def loopLengths (r : Renderer) (visits : List Visit) : List Nat :=
  visits.filterMap r.turns?

@[simp]
theorem loopLengths_nil (r : Renderer) : r.loopLengths [] = [] :=
  rfl

@[simp]
theorem loopLengths_append (r : Renderer) (first second : List Visit) :
    r.loopLengths (first ++ second) = r.loopLengths first ++ r.loopLengths second :=
  List.filterMap_append

@[simp]
theorem loopLengths_binding (r : Renderer) (e : Element) (visits : List Visit) :
    r.loopLengths (⟨e, .binding⟩ :: visits) = r.loopLengths visits :=
  rfl

@[simp]
theorem loopLengths_startTag (r : Renderer) (e : Element) (context : Context)
    (visits : List Visit) :
    r.loopLengths (⟨e, .startTag context⟩ :: visits) = r.loopLengths visits :=
  rfl

theorem loopLengths_loop (r : Renderer) (e : Element) {expression : Expression}
    {context : Context} {items : List Value} (evaluated : r.items context expression = .ok items)
    (visits : List Visit) :
    r.loopLengths (⟨e, .loop expression context⟩ :: visits) =
      items.length :: r.loopLengths visits := by
  have turns : r.turns? ⟨e, .loop expression context⟩ = some items.length := by
    simp only [turns?, evaluated]
    rfl
  exact List.filterMap_cons_some turns

theorem loopLengths_flatMap {α : Type} (r : Renderer) (visits : α → List Visit)
    (values : List α) :
    r.loopLengths (values.flatMap visits) = values.flatMap fun value =>
      r.loopLengths (visits value) :=
  List.filterMap_flatMap

end Renderer

/-- Two computations that succeed have outputs with the same markup, if the lists of
lengths that they begin with agree; what follows these lengths is then the same too. -/
def Lockstep (first second : Outcome String) (lengths₁ lengths₂ : List Nat) : Prop :=
  ∀ output₁ output₂ rest₁ rest₂, first = .ok output₁ → second = .ok output₂ →
    lengths₁ ++ rest₁ = lengths₂ ++ rest₂ →
      markupOf output₁ = markupOf output₂ ∧ rest₁ = rest₂

namespace Lockstep

theorem of_markup {first second : Outcome String}
    (same : ∀ output₁ output₂, first = .ok output₁ → second = .ok output₂ →
      markupOf output₁ = markupOf output₂) :
    Lockstep first second [] [] :=
  fun output₁ output₂ _ _ ok₁ ok₂ agree => ⟨same output₁ output₂ ok₁ ok₂, agree⟩

theorem append {first second first' second' : Outcome String}
    {lengths₁ lengths₂ lengths₁' lengths₂' : List Nat}
    (front : Lockstep first second lengths₁ lengths₂)
    (back : Lockstep first' second' lengths₁' lengths₂') :
    Lockstep (do pure ((← first) ++ (← first'))) (do pure ((← second) ++ (← second')))
      (lengths₁ ++ lengths₁') (lengths₂ ++ lengths₂') := by
  intro output₁ output₂ rest₁ rest₂ ok₁ ok₂ agree
  obtain ⟨front₁, frontOk₁, ok₁⟩ := bind_eq_ok_iff.mp ok₁
  obtain ⟨back₁, backOk₁, ok₁⟩ := bind_eq_ok_iff.mp ok₁
  obtain ⟨front₂, frontOk₂, ok₂⟩ := bind_eq_ok_iff.mp ok₂
  obtain ⟨back₂, backOk₂, ok₂⟩ := bind_eq_ok_iff.mp ok₂
  cases ok₁
  cases ok₂
  rw [List.append_assoc, List.append_assoc] at agree
  obtain ⟨frontSame, agree⟩ := front front₁ front₂ _ _ frontOk₁ frontOk₂ agree
  obtain ⟨backSame, agree⟩ := back back₁ back₂ _ _ backOk₁ backOk₂ agree
  exact ⟨by rw [markupOf_append, markupOf_append, frontSame, backSame], agree⟩

theorem join {α β : Type} {part₁ : α → Outcome String} {part₂ : β → Outcome String}
    {lengths₁ : α → List Nat} {lengths₂ : β → List Nat} {values₁ : List α} {values₂ : List β}
    (parts : List.Forall₂ (fun first second =>
      Lockstep (part₁ first) (part₂ second) (lengths₁ first) (lengths₂ second)) values₁ values₂) :
    Lockstep (String.join <$> values₁.mapM part₁) (String.join <$> values₂.mapM part₂)
      (values₁.flatMap lengths₁) (values₂.flatMap lengths₂) := by
  induction parts with
  | nil => exact of_markup fun _ _ ok₁ ok₂ => by cases ok₁; cases ok₂; rfl
  | cons first _ ih =>
      rw [join_mapM_cons, join_mapM_cons, List.flatMap_cons, List.flatMap_cons]
      exact first.append ih

/-- Parts that do not count are in lockstep together. -/
theorem join_same {α : Type} {part₁ part₂ : α → Outcome String} {values : List α}
    (parts : ∀ value ∈ values, Lockstep (part₁ value) (part₂ value) [] []) :
    Lockstep (String.join <$> values.mapM part₁) (String.join <$> values.mapM part₂) [] [] := by
  have together : Lockstep (String.join <$> values.mapM part₁) (String.join <$> values.mapM part₂)
      (values.flatMap fun _ => []) (values.flatMap fun _ => []) :=
    join (List.forall₂_same.mpr parts)
  rwa [List.flatMap_eq_nil_iff.mpr fun _ _ => rfl] at together

theorem map {first second : Outcome String} {lengths₁ lengths₂ : List Nat}
    {f₁ f₂ : String → String} (same : ∀ output₁ output₂, markupOf output₁ = markupOf output₂ →
      markupOf (f₁ output₁) = markupOf (f₂ output₂))
    (agree : Lockstep first second lengths₁ lengths₂) :
    Lockstep (f₁ <$> first) (f₂ <$> second) lengths₁ lengths₂ := by
  intro output₁ output₂ rest₁ rest₂ ok₁ ok₂ lengths
  obtain ⟨plain₁, done₁, rfl⟩ := map_eq_ok_iff.mp ok₁
  obtain ⟨plain₂, done₂, rfl⟩ := map_eq_ok_iff.mp ok₂
  exact (agree plain₁ plain₂ rest₁ rest₂ done₁ done₂ lengths).imp_left (same plain₁ plain₂)

theorem withLocation {first second : Outcome String} {lengths₁ lengths₂ : List Nat}
    (agree : Lockstep first second lengths₁ lengths₂) (location : String) :
    Lockstep (first.withLocation location) (second.withLocation location) lengths₁ lengths₂ :=
  fun output₁ output₂ rest₁ rest₂ ok₁ ok₂ =>
    agree output₁ output₂ rest₁ rest₂ (Outcome.annotate_eq_ok_iff.mp ok₁)
      (Outcome.annotate_eq_ok_iff.mp ok₂)

end Lockstep

namespace Renderer

variable (r : Renderer) {e : Element} {inside : Context → Outcome String}
  {visitsInside : Context → List Visit}

/-- The markup in the text of an attribute that has this name. -/
def markupOfAttribute (writtenName : String) (a : Attribute) : List Char :=
  if (Directive.ofName? a.name).isSome then []
  else if a.value.isSome then markupOf writtenName ++ ['"', '"']
  else markupOf writtenName

/-- A value is escaped after its expressions are replaced, whatever they give, so that it
holds no markup. -/
theorem markupOf_of_attributeText {context : Context} {writtenName output : String}
    {a : Attribute} (written : r.attributeText context writtenName a = .ok output) :
    markupOf output = markupOfAttribute writtenName a := by
  have blank : markupOf " " = [] := by decide
  have quote : markupOf "\"" = ['"'] := by decide
  have equals : markupOf "=\"" = ['"'] := by decide
  rw [markupOfAttribute]
  cases asked : Directive.ofName? a.name with
  | some directive =>
      simp only [attributeText, asked] at written
      cases written
      simp [markupOf]
  | none =>
      cases given : a.value with
      | none =>
          simp only [attributeText, asked, given] at written
          cases written
          simp [blank]
      | some value =>
          rw [r.attributeText_of_some context writtenName asked given] at written
          obtain ⟨filled, _, rfl⟩ := map_eq_ok_iff.mp written
          simp [blank, quote, equals]

theorem lockstep_startTag (context₁ context₂ : Context) (e : Element) :
    Lockstep (r.startTag context₁ e) (r.startTag context₂ e) [] [] := by
  cases changed : e.start.attributes.any changesTag || e.start.raw = "" with
  | true =>
      rw [r.startTag_eq_of_changed context₁ e changed, r.startTag_eq_of_changed context₂ e changed]
      refine .map (fun _ _ same => by simp [same]) (.join_same ?_)
      exact fun (writtenName, a) _ => .of_markup fun output₁ output₂ ok₁ ok₂ =>
        (r.markupOf_of_attributeText ok₁).trans (r.markupOf_of_attributeText ok₂).symm
  | false =>
      have copied (context : Context) : r.startTag context e = .ok e.start.raw := by
        simp only [startTag]
        rw [if_neg (by simp [changed])]
      refine .of_markup fun output₁ output₂ ok₁ ok₂ => ?_
      cases (copied context₁).symm.trans ok₁
      cases (copied context₂).symm.trans ok₂
      rfl

section Inside

-- What is inside the element is rendered in lockstep.
variable (agree : ∀ context₁ context₂, Lockstep (inside context₁) (inside context₂)
  (r.loopLengths (visitsInside context₁)) (r.loopLengths (visitsInside context₂)))

include agree

theorem lockstep_emit (context₁ context₂ : Context) {content₁ content₂ : Option String}
    (same : content₁.map markupOf = content₂.map markupOf) :
    Lockstep (r.emit e inside context₁ content₁) (r.emit e inside context₂ content₂)
      (r.loopLengths (r.visitsOfBindings e visitsInside [] context₁ content₁.isSome))
      (r.loopLengths (r.visitsOfBindings e visitsInside [] context₂ content₂.isSome)) := by
  have tags := r.lockstep_startTag context₁ context₂ e
  cases isVoid : e.isVoid with
  | true =>
      have alone : e.start.opens = false := by
        simpa [StartTag.opens, Element.isVoid] using fun _ => isVoid
      rw [emit_of_isVoid r inside context₁ isVoid, emit_of_isVoid r inside context₂ isVoid]
      simpa [visitsOfBindings, alone] using tags
  | false =>
      cases content₁ with
      | some given₁ =>
          cases content₂ with
          | none => cases same
          | some given₂ =>
              rw [emit_of_given r inside context₁ isVoid, emit_of_given r inside context₂ isVoid]
              have same : markupOf given₁ = markupOf given₂ := Option.some.inj same
              exact .map (fun _ _ starts => by simp [starts, same]) tags
      | none =>
          obtain rfl : content₂ = none := Option.map_eq_none_iff.mp same.symm
          cases opens : e.start.opens with
          | false =>
              rw [emit_of_alone r inside context₁ opens, emit_of_alone r inside context₂ opens]
              simpa [visitsOfBindings, opens] using tags
          | true =>
              have whole (context : Context) : r.emit e inside context none =
                  (· ++ if e.closed then e.start.endTag else "") <$> (do
                    pure ((← r.startTag context e) ++ (← inside context))) := by
                rw [emit_of_opens r inside context opens]
                simp
              rw [whole, whole]
              simp only [visitsOfBindings, opens, loopLengths_startTag]
              exact .map (fun _ _ inner => by simp [inner])
                (tags.append (agree context₁ context₂))

/-- Bindings that insert no HTML keep two renderings in lockstep: a text is escaped, and
loops take equally many turns. -/
theorem lockstep_applyAll {bindings : List Binding}
    (noHtml : ∀ b ∈ bindings, b.directive ≠ .html) (context₁ context₂ : Context) {content₁ content₂ : Option String}
    (same : content₁.map markupOf = content₂.map markupOf) :
    Lockstep (r.applyAll (r.emit e inside) bindings context₁ content₁)
      (r.applyAll (r.emit e inside) bindings context₂ content₂)
      (r.loopLengths (r.visitsOfBindings e visitsInside bindings context₁ content₁.isSome))
      (r.loopLengths (r.visitsOfBindings e visitsInside bindings context₂ content₂.isSome)) := by
  induction bindings generalizing context₁ context₂ content₁ content₂ with
  | nil => exact r.lockstep_emit agree context₁ context₂ same
  | cons binding bindings ih =>
      obtain ⟨noHtmlHere, noHtml⟩ := List.forall_mem_cons.mp noHtml
      specialize ih noHtml
      obtain ⟨directive, expression⟩ := binding
      cases directive with
      | html => exact absurd rfl noHtmlHere
      | text =>
          intro output₁ output₂ rest₁ rest₂ ok₁ ok₂ lengths
          obtain ⟨shown₁, _, ok₁⟩ := bind_eq_ok_iff.mp ok₁
          obtain ⟨shown₂, _, ok₂⟩ := bind_eq_ok_iff.mp ok₂
          exact ih context₁ context₂ (by simp) _ _ rest₁ rest₂ ok₁ ok₂ lengths
      | loop =>
          intro output₁ output₂ rest₁ rest₂ ok₁ ok₂ lengths
          obtain ⟨items₁, evaluated₁, _⟩ := bind_eq_ok_iff.mp ok₁
          obtain ⟨items₂, evaluated₂, _⟩ := bind_eq_ok_iff.mp ok₂
          simp only [visitsOfBindings, loopLengths_loop _ _ evaluated₁,
            loopLengths_loop _ _ evaluated₂, List.cons_append, evaluated₁, evaluated₂,
            loopLengths_flatMap] at lengths
          -- The first length on each side is that of this loop.
          obtain ⟨asMany, lengths⟩ := List.cons.inj lengths
          rw [r.applyAll_loop _ evaluated₁] at ok₁
          rw [r.applyAll_loop _ evaluated₂] at ok₂
          refine Lockstep.join ?_ output₁ output₂ rest₁ rest₂ ok₁ ok₂ lengths
          refine List.forall₂_of_length_eq_of_get (by simpa using asMany) fun index _ _ => ?_
          exact ih _ _ same

theorem lockstep_element
    (noHtml : ∀ a ∈ e.start.attributes, a.name ≠ Directive.html.attributeName)
    {bindings : List Binding} (bound : e.bindings r.names = .ok bindings)
    (context₁ context₂ : Context) :
    Lockstep (r.element e inside context₁) (r.element e inside context₂)
      (r.loopLengths (r.visitsOfBindings e visitsInside bindings context₁ false))
      (r.loopLengths (r.visitsOfBindings e visitsInside bindings context₂ false)) := by
  have noHtml : ∀ b ∈ bindings, b.directive ≠ .html := by
    intro b member isHtml
    obtain ⟨a, among, named, _⟩ := Element.exists_binds bound member
    rw [isHtml] at named
    exact noHtml a among (Directive.attributeName_of_ofName? named).symm
  simp only [element, bound]
  exact (r.lockstep_applyAll agree noHtml context₁ context₂ rfl).withLocation e.location

end Inside

mutual

theorem lockstep_node : ∀ node : Node,
    (∀ e ∈ node.elements, ∀ a ∈ e.start.attributes, a.name ≠ Directive.html.attributeName) →
      ∀ context₁ context₂, Lockstep (r.node node context₁) (r.node node context₂)
        (r.loopLengths (r.visitsOf node context₁)) (r.loopLengths (r.visitsOf node context₂))
  | .raw text, _, _, _ => .of_markup fun _ _ ok₁ ok₂ => by cases ok₁; cases ok₂; rfl
  | .element ⟨start, place, children, closed⟩, noHtml, context₁, context₂ => by
      rw [Node.elements, List.forall_mem_cons] at noHtml
      have inside := lockstep_nodes children noHtml.2
      cases bound : Element.bindings r.names ⟨start, place, children, closed⟩ with
      | error failure =>
          intro output₁ output₂ _ _ ok₁
          rw [node, element, bound] at ok₁
          cases ok₁
      | ok bindings =>
          have both := r.lockstep_element inside noHtml.1 bound context₁ context₂
          simpa only [node, visitsOf, bound, loopLengths_binding] using both
termination_by structural node => node

/-- Two renderings of nodes that insert no HTML are in lockstep. -/
theorem lockstep_nodes : ∀ nodes : List Node,
    (∀ e ∈ Node.elementsOfAll nodes, ∀ a ∈ e.start.attributes,
        a.name ≠ Directive.html.attributeName) →
      ∀ context₁ context₂, Lockstep (r.nodes nodes context₁) (r.nodes nodes context₂)
        (r.loopLengths (r.visits nodes context₁)) (r.loopLengths (r.visits nodes context₂))
  | [], _, _, _ => .of_markup fun _ _ ok₁ ok₂ => by cases ok₁; cases ok₂; rfl
  | node :: others, noHtml, context₁, context₂ => by
      rw [Node.elementsOfAll, List.forall_mem_append] at noHtml
      rw [visits, visits, loopLengths_append, loopLengths_append]
      exact (lockstep_node node noHtml.1 context₁ context₂).append
        (lockstep_nodes others noHtml.2 context₁ context₂)
termination_by structural nodes => nodes

end

/-- Data is no markup: in a template without HTML directives, two contexts for which the
loops take the same numbers of turns give the same markup. -/
theorem template_markup_eq (r : Renderer) (t : Template)
    (noHtml : ∀ e ∈ t.elements, ∀ a ∈ e.start.attributes,
      a.name ≠ Directive.html.attributeName)
    {context₁ context₂ : Context} {output₁ output₂ : String}
    (rendered₁ : r.template t context₁ = .ok output₁)
    (rendered₂ : r.template t context₂ = .ok output₂)
    (lengths : r.loopLengths (r.visits t.nodes context₁) =
      r.loopLengths (r.visits t.nodes context₂)) :
    markupOf output₁ = markupOf output₂ :=
  (r.lockstep_nodes t.nodes noHtml context₁ context₂ output₁ output₂ [] [] rendered₁ rendered₂
    (congrArg (· ++ []) lengths)).1

/-- A list with a title and an item for every tag. -/
def titledList : Template :=
  ⟨[.element ⟨⟨"ul", [⟨"title", some "all of $name"⟩], "<ul title='all of $name'>", "ul",
      ["title"], false⟩, .start, [.element ⟨⟨"li", [⟨":loop", some "$tags"⟩,
        ⟨":text", some "$loop.it"⟩], "<li :loop='$tags' :text='$loop.it'>", "li",
        [":loop", ":text"], false⟩, .start, [], true⟩], true⟩], none⟩

def listContext (name tags : Value) : Context :=
  .ofNamespaces [("name", name), ("tags", tags)] .default

/-- Trusted and foreign HTML adds no more markup than a word does. -/
theorem template_markup_eq_titledList :
    let r : Renderer := ⟨.builtin, ["name", "tags"]⟩
    let words := listContext (.string "it") (.list [.string "go", .string "lean"])
    let markup := listContext (.html "\"><hr>")
      (.tuple [.foreign "Icon" (some "<img>"), .string "'</li>"])
    (∀ e ∈ titledList.elements, ∀ a ∈ e.start.attributes,
      a.name ≠ Directive.html.attributeName) ∧
      r.loopLengths (r.visits titledList.nodes words) = [2] ∧
      r.loopLengths (r.visits titledList.nodes markup) = [2] ∧
      ∃ output₁ output₂, r.template titledList words = .ok output₁ ∧
        r.template titledList markup = .ok output₂ ∧ output₁ ≠ output₂ ∧
        markupOf output₁ = markupOf output₂ := by
  intro r words markup
  have noHtml : ∀ e ∈ titledList.elements, ∀ a ∈ e.start.attributes,
      a.name ≠ Directive.html.attributeName := by decide +kernel
  have turns₁ : r.loopLengths (r.visits titledList.nodes words) = [2] := by decide +kernel
  have turns₂ : r.loopLengths (r.visits titledList.nodes markup) = [2] := by decide +kernel
  have rendered₁ : r.template titledList words =
      .ok "<ul title=\"all of it\"><li>go</li><li>lean</li></ul>" := by decide +kernel
  have rendered₂ : r.template titledList markup =
      .ok ("<ul title=\"all of &#34;&gt;&lt;hr&gt;\"><li>&lt;img&gt;</li>" ++
        "<li>&#39;&lt;/li&gt;</li></ul>") := by decide +kernel
  exact ⟨noHtml, turns₁, turns₂, _, _, rendered₁, rendered₂, by decide +kernel,
    r.template_markup_eq titledList noHtml rendered₁ rendered₂ (turns₁.trans turns₂.symm)⟩

end Renderer

end LayoutBinding
