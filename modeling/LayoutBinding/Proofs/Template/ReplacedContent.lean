import LayoutBinding.Proofs.Template.DirectiveOrder

/-!
# Content that is replaced

An element whose content is replaced is written as a start tag, the new content and an end
tag, once or for each turn of its loop.  What stood inside it, whether it was closed, and
how its start tag was written leave no trace.
-/

namespace LayoutBinding

namespace Element

/-! ### The expressions of the directives -/

/-- The expression that a directive of the element is bound to. -/
def expression? (names : List String) (e : Element) (directive : Directive) :
    Option Expression :=
  (e.get? directive.attributeName).bind fun written => (Expression.parse names written).toOption

variable {names : List String} {e : Element}

theorem find?_bindingsOf {attributes : List Attribute} {made : List Binding}
    (bound : e.bindingsOf names attributes = .ok made) (directive : Directive) :
    made.find? (·.directive = directive) =
      (((attributes.find? (·.name = directive.attributeName)).bind Attribute.value).bind
        fun written => (Expression.parse names written).toOption).map (Binding.mk directive) := by
  induction attributes generalizing made with
  | nil =>
      cases bound
      rfl
  | cons a attributes ih =>
      cases asked : Directive.ofName? a.name with
      | none =>
          rw [bindingsOf_cons_of_none names e asked] at bound
          have other : a.name ≠ directive.attributeName := by
            intro same
            rw [Directive.ofName?_eq_some_iff.mpr same] at asked
            cases asked
          rw [ih bound, List.find?_cons_of_neg (by simpa using other)]
      | some own =>
          rw [bindingsOf_cons names e asked] at bound
          obtain ⟨first, firstBound, bound⟩ := bind_eq_ok_iff.mp bound
          obtain ⟨others, othersBound, bound⟩ := bind_eq_ok_iff.mp bound
          cases bound
          obtain ⟨written, expression, given, parsed, rfl⟩ := exists_of_binding_eq_ok firstBound
          by_cases same : own = directive
          · subst same
            have named := Directive.ofName?_eq_some_iff.mp asked
            rw [List.find?_cons_of_pos (by simp), List.find?_cons_of_pos (by simp [named]),
              Option.bind_some, given, Option.bind_some, parsed]
            rfl
          · have other : a.name ≠ directive.attributeName := by
              intro named
              rw [Directive.ofName?_eq_some_iff.mpr named] at asked
              exact same (Option.some.inj asked).symm
            rw [List.find?_cons_of_neg (by simpa using same), ih othersBound,
              List.find?_cons_of_neg (by simpa using other)]

/-- If no directive stands twice, the bindings are those of the expressions of the
directives, in the order in which directives are applied. -/
theorem bindings_eq_filterMap {bindings : List Binding} (once : e.start.directives.Nodup)
    (bound : e.bindings names = .ok bindings) :
    bindings = Directive.all.filterMap fun directive =>
      (e.expression? names directive).map (Binding.mk directive) := by
  obtain ⟨made, madeBound, rfl⟩ := bindings_eq_ok_iff.mp bound
  have distinct : (made.map Binding.directive).Nodup := by
    rw [map_directive_bindingsOf madeBound]
    exact once
  rw [List.filterMap_eq_flatMap_toList]
  refine List.flatMap_congr fun directive _ => ?_
  rw [filter_key_eq_toList distinct, find?_bindingsOf madeBound]
  rfl

/-- The directives that stand in a tag are those with an expression. -/
theorem isSome_expression?_iff {bindings : List Binding} (bound : e.bindings names = .ok bindings)
    (directive : Directive) :
    (e.expression? names directive).isSome ↔ directive ∈ e.start.directives := by
  obtain ⟨made, madeBound, -⟩ := bindings_eq_ok_iff.mp bound
  have found := congrArg Option.isSome (find?_bindingsOf madeBound directive)
  rw [Option.isSome_map] at found
  change _ = (e.expression? names directive).isSome at found
  rw [← found, List.find?_isSome, StartTag.directives, ← map_directive_bindingsOf madeBound,
    List.mem_map]
  simp

end Element

namespace Renderer

/-! ### Rendering -/

/-- What replaces the content of an element: what its HTML gives, or else what its text gives
with marks escaped.  A text that the HTML replaces is shown before it all the same. -/
def replacement (r : Renderer) (context : Context) : (text html : Option Expression) →
    Outcome String
  | none, none => pure ""
  | some x, none => (fun shown => escapeHtml shown.content) <$> r.shown context x
  | none, some y => Text.content <$> r.shown context y
  | some x, some y => do
      let _ ← r.shown context x
      Text.content <$> r.shown context y

/-- An element with its content replaced. -/
def replaced (r : Renderer) (e : Element) (text html : Option Expression) (context : Context) :
    Outcome String := do
  let content ← r.replacement context text html
  let start ← r.tagAnew context e.start
  pure (start ++ content ++ e.start.endTag)

/-- What is rendered in a context, or in the context of each turn of a loop. -/
def inTurns (r : Renderer) (loop : Option Expression) (turn : Context → Outcome String)
    (context : Context) : Outcome String :=
  match loop with
  | none => turn context
  | some x => do
      let items ← r.items context x
      String.join <$> items.zipIdx.mapM fun (item, index) =>
        turn (context.enterLoop item index items.length)

/-- The bindings of a text and of HTML lead to what is inside with its content replaced. -/
theorem applyAll_contents (r : Renderer) (inside : Context → Option String → Outcome String)
    {text html : Option Expression} (sets : text.isSome ∨ html.isSome) (context : Context) :
    r.applyAll inside ((text.map (Binding.mk .text)).toList ++
        (html.map (Binding.mk .html)).toList) context none =
      r.replacement context text html >>= fun content => inside context (some content) := by
  cases text with
  | none =>
      cases html with
      | none => simp at sets
      | some y =>
          change r.applyAll inside [⟨.html, y⟩] context none = _
          simp only [applyAll, replacement]
          cases r.shown context y <;> rfl
  | some x =>
      cases html with
      | none =>
          change r.applyAll inside [⟨.text, x⟩] context none = _
          simp only [applyAll, replacement]
          cases r.shown context x <;> rfl
      | some y =>
          change r.applyAll inside [⟨.text, x⟩, ⟨.html, y⟩] context none = _
          simp only [applyAll, replacement]
          cases r.shown context x with
          | error failure => rfl
          | ok shown => cases r.shown context y <;> rfl

/-- A loop repeats what the bindings after it lead to. -/
theorem applyAll_inTurns (r : Renderer) (inside : Context → Option String → Outcome String)
    (loop : Option Expression) (others : List Binding) (context : Context)
    (content : Option String) :
    r.applyAll inside ((loop.map (Binding.mk .loop)).toList ++ others) context content =
      r.inTurns loop (fun turn => r.applyAll inside others turn content) context := by
  cases loop with
  | none => rfl
  | some x =>
      change r.applyAll inside (⟨.loop, x⟩ :: others) context content = _
      rw [inTurns]
      cases evaluated : r.items context x with
      | error failure =>
          rw [applyAll, evaluated]
          rfl
      | ok items => exact r.applyAll_loop inside evaluated others content

theorem startTag_of_directive (r : Renderer) (context : Context) {e : Element}
    {directive : Directive} (asked : directive ∈ e.start.directives) :
    r.startTag context e = r.tagAnew context e.start := by
  obtain ⟨a, member, own⟩ := List.mem_filterMap.mp asked
  have changed : e.start.attributes.any changesTag = true := by
    refine List.any_eq_true.mpr ⟨a, member, ?_⟩
    rw [changesTag, own]
    rfl
  rw [startTag_eq, changed]
  rfl

theorem emit_replacement (r : Renderer) {e : Element} (noVoid : e.isVoid = false)
    {directive : Directive} (asked : directive ∈ e.start.directives)
    (inside : Context → Outcome String) (text html : Option Expression) (context : Context) :
    (r.replacement context text html >>= fun content =>
        r.emit e inside context (some content)) = r.replaced e text html context := by
  rw [replaced]
  refine bind_congr fun content => ?_
  rw [r.emit_of_given inside context noVoid, r.startTag_of_directive context asked,
    map_eq_pure_bind]

theorem node_eq_inTurns (r : Renderer) {e : Element} {bindings : List Binding}
    (noVoid : e.isVoid = false) (once : e.start.directives.Nodup)
    (sets : .text ∈ e.start.directives ∨ .html ∈ e.start.directives)
    (bound : e.bindings r.names = .ok bindings) (context : Context) :
    r.node (.element e) context =
      (r.inTurns (e.expression? r.names .loop)
        (r.replaced e (e.expression? r.names .text) (e.expression? r.names .html))
        context).withLocation e.location := by
  have inOrder : bindings = ((e.expression? r.names .loop).map (Binding.mk .loop)).toList ++
      (((e.expression? r.names .text).map (Binding.mk .text)).toList ++
        ((e.expression? r.names .html).map (Binding.mk .html)).toList) := by
    rw [Element.bindings_eq_filterMap once bound, List.filterMap_eq_flatMap_toList]
    simp [Directive.all]
  have given : (e.expression? r.names .text).isSome ∨ (e.expression? r.names .html).isSome :=
    sets.imp (Element.isSome_expression?_iff bound .text).mpr
      (Element.isSome_expression?_iff bound .html).mpr
  obtain ⟨directive, asked⟩ : ∃ directive, directive ∈ e.start.directives :=
    sets.elim (fun asked => ⟨_, asked⟩) fun asked => ⟨_, asked⟩
  have turn (context : Context) : r.applyAll (r.emit e (r.nodes e.children))
      (((e.expression? r.names .text).map (Binding.mk .text)).toList ++
        ((e.expression? r.names .html).map (Binding.mk .html)).toList) context none =
      r.replaced e (e.expression? r.names .text) (e.expression? r.names .html) context := by
    rw [r.applyAll_contents _ given, r.emit_replacement noVoid asked]
  rw [r.node_element_of_bindings bound, inOrder, applyAll_inTurns, funext turn]

/-- An element with a directive for its content, none of them twice, gives its start tag
written anew, the content that replaces what is inside it and an end tag, for each turn of its
loop if it has one.  How its start tag was written, whether it was closed and what stands
inside it make no difference, not even for errors.  A text that fails is the failure of the
turn, whatever the HTML would give. -/
theorem node_replaces_content (r : Renderer) (e : Element) {bindings : List Binding}
    (noVoid : e.isVoid = false) (once : e.start.directives.Nodup)
    (sets : .text ∈ e.start.directives ∨ .html ∈ e.start.directives)
    (bound : e.bindings r.names = .ok bindings) :
    let loop := e.expression? r.names .loop
    let text := e.expression? r.names .text
    let html := e.expression? r.names .html
    (∀ directive, (e.expression? r.names directive).isSome ↔ directive ∈ e.start.directives) ∧
      ∀ context,
        r.node (.element e) context =
            (r.inTurns loop (r.replaced e text html) context).withLocation e.location ∧
          (∀ raw selfClosing children closed,
            r.node (.element ⟨{ e.start with raw := raw, selfClosing := selfClosing }, e.place,
                children, closed⟩) context =
              r.node (.element e) context) ∧
          ∀ x failure, text = some x → r.shown context x = .error failure →
            ∀ other, r.replaced e text other context = .error failure := by
  intro loop text html
  refine ⟨Element.isSome_expression?_iff bound, fun context => ⟨?_, ?_, ?_⟩⟩
  · exact r.node_eq_inTurns noVoid once sets bound context
  · intro raw selfClosing children closed
    let changed : Element :=
      ⟨{ e.start with raw := raw, selfClosing := selfClosing }, e.place, children, closed⟩
    have noVoidName : isVoidName e.start.name = false := noVoid
    have tag (turn : Context) : r.tagAnew turn changed.start = r.tagAnew turn e.start := by
      simp only [tagAnew, changed, noVoidName, Bool.and_false]
      rfl
    have filled : r.replaced changed text html = r.replaced e text html := by
      funext turn
      rw [replaced, replaced, tag]
      rfl
    rw [r.node_eq_inTurns noVoid once sets bound context]
    change r.node (.element changed) context = _
    rw [r.node_eq_inTurns (e := changed) noVoid once sets bound context]
    exact congrArg (fun turn => (r.inTurns loop turn context).withLocation e.location) filled
  · intro x failure isText fails other
    have first : r.replacement context text other = .error failure := by
      rw [isText]
      cases other <;> simp only [replacement, fails] <;> rfl
    rw [replaced, first]
    rfl

/-- A card for every row, with a text and HTML. -/
def card : Element :=
  ⟨⟨"div", [⟨":loop", some "$rows"⟩, ⟨"id", some "c$loop.index"⟩, ⟨":text", some "$loop.it.title"⟩,
      ⟨":html", some "$loop.it.body"⟩],
    "", "Div", [":loop", "ID", ":text", ":html"], false⟩, .start, [], true⟩

/-- A paragraph that cannot be rendered: rows have no such field. -/
def brokenParagraph : Node :=
  .element ⟨⟨"p", [⟨":text", some "$loop.it.missing"⟩], "", "p", [":text"], false⟩, .start, [], true⟩

/-- The title of the first row. -/
def heading : Element :=
  ⟨⟨"h2", [⟨":text", some "$rows.first.title"⟩], "<h2 :text='$rows.first.title'>", "h2", [":text"],
    false⟩, .start, [.raw "Title"], true⟩

/-- An element that is self-closing, not closed and with a broken paragraph inside. -/
def spoilt (e : Element) (raw : String) : Element :=
  ⟨{ e.start with raw := raw, selfClosing := true }, e.place, [brokenParagraph], false⟩

/-- The HTML of the second row is empty, and still it replaces the text.  The heading has a text
only. -/
theorem node_replaces_content_card :
    let r : Renderer := ⟨.builtin, ["rows"]⟩
    let context : Context := .ofNamespaces [("rows", .list
      [.record [("title", .string "a < b"), ("body", .string "<b>a</b>")],
        .record [("title", .string "b"), ("body", .string "")]])] .default
    card.isVoid = false ∧ card.start.directives = [.loop, .text, .html] ∧
      r.node (.element (spoilt card "<Div>")) context = r.node (.element card) context ∧
      r.node (.element card) context =
        .ok "<Div ID=\"c0\"><b>a</b></Div><Div ID=\"c1\"></Div>" ∧
      heading.isVoid = false ∧ heading.start.directives = [.text] ∧
      r.node (.element (spoilt heading "")) context = r.node (.element heading) context ∧
      r.node (.element heading) context = .ok "<h2>a &lt; b</h2>" := by
  intro r context
  have asked : card.start.directives = [.loop, .text, .html] := by decide +kernel
  have computed : (card.bindings ["rows"]).map (fun _ => ()) = .ok () := by decide +kernel
  obtain ⟨bindings, bound, -⟩ := map_eq_ok_iff.mp computed
  have replaces := r.node_replaces_content card (by decide +kernel) (asked ▸ by decide)
    (.inl (asked ▸ by decide)) bound
  have askedText : heading.start.directives = [.text] := by decide +kernel
  have computedText : (heading.bindings ["rows"]).map (fun _ => ()) = .ok () := by decide +kernel
  obtain ⟨textBindings, textBound, -⟩ := map_eq_ok_iff.mp computedText
  have replacesText := r.node_replaces_content heading (by decide +kernel) (askedText ▸ by decide)
    (.inl (askedText ▸ by decide)) textBound
  exact ⟨by decide +kernel, asked, (replaces.2 context).2.1 "<Div>" true [brokenParagraph] false,
    by decide +kernel, by decide +kernel, askedText,
    (replacesText.2 context).2.1 "" true [brokenParagraph] false, by decide +kernel⟩

end Renderer

end LayoutBinding
