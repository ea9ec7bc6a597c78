import LayoutBinding.Proofs.Expression.WholeText
import LayoutBinding.Template.Rendering
import LayoutBinding.Traversal

/-!
# Unrolling a loop

An element with a loop is rendered like the element without its first loop in the
contexts of the turns, one after the other.  The other bindings of the element, its
start tag and what is inside it are the same for both.
-/

namespace LayoutBinding

def Attribute.isLoop (a : Attribute) : Bool :=
  a.name = Directive.loop.attributeName

namespace StartTag

def withoutFirstLoop (tag : StartTag) : StartTag :=
  let index := tag.attributes.findIdx Attribute.isLoop
  { tag with
    attributes := tag.attributes.eraseIdx index
    raw := ""
    writtenAttributes := tag.writtenAttributes.eraseIdx index }

/-- The first loop of a tag stands after attributes that are none. -/
theorem exists_firstLoop {tag : StartTag} (loops : tag.attributes.any Attribute.isLoop) :
    ∃ before value after,
      tag.attributes = before ++ ⟨Directive.loop.attributeName, value⟩ :: after ∧
        (∀ a ∈ before, a.isLoop = false) ∧
        tag.withoutFirstLoop.attributes = before ++ after := by
  obtain ⟨⟨name, value⟩, found⟩ :=
    Option.isSome_iff_exists.mp (List.find?_isSome.mpr (List.any_eq_true.mp loops))
  obtain ⟨isLoop, before, after, split, noLoop⟩ := List.find?_eq_some_iff_append.mp found
  have named : name = Directive.loop.attributeName := by simpa [Attribute.isLoop] using isLoop
  have noneBefore : ∀ a ∈ before, a.isLoop = false := by simpa using noLoop
  refine ⟨before, value, after, by rw [split, named], noneBefore, ?_⟩
  have index : tag.attributes.findIdx Attribute.isLoop = before.length := by
    have absent := List.findIdx_eq_length_of_false noneBefore
    simp [split, List.findIdx_append, List.findIdx_cons, absent, isLoop]
  change tag.attributes.eraseIdx (tag.attributes.findIdx Attribute.isLoop) = before ++ after
  rw [index, split, List.eraseIdx_append_of_length_le (Nat.le_refl _), Nat.sub_self]
  rfl

end StartTag

namespace Element

def withoutFirstLoop (e : Element) : Element :=
  { e with start := e.start.withoutFirstLoop }

/-! ### Bindings -/

theorem exists_of_binding_eq_ok {names : List String} {e : Element} {directive : Directive}
    {value : Option String} {made : Binding} (bound : e.binding names directive value = .ok made) :
    ∃ written expression, value = some written ∧
      Expression.parse names written = .ok expression ∧ made = ⟨directive, expression⟩ := by
  simp only [binding] at bound
  split at bound
  next => cases bound
  split at bound
  next => cases bound
  next filled =>
    cases value with
    | none => exact absurd rfl filled
    | some written =>
        rw [Option.getD_some] at bound
        cases parsed : Expression.parse names written with
        | error failure =>
            rw [parsed] at bound
            cases bound
        | ok expression =>
            rw [parsed] at bound
            cases bound
            exact ⟨written, expression, rfl, parsed, rfl⟩

/-- The bindings that some of the attributes of an element make. -/
def bindingsOf (names : List String) (e : Element) (attributes : List Attribute) :
    Except Error (List Binding) :=
  (attributes.filterMap fun a =>
    (Directive.ofName? a.name).map fun directive => (directive, a.value)).mapM
      fun (directive, value) => e.binding names directive value

theorem bindingsOf_append (names : List String) (e : Element) (first second : List Attribute) :
    e.bindingsOf names (first ++ second) = (do
      let front ← e.bindingsOf names first
      let back ← e.bindingsOf names second
      pure (front ++ back)) := by
  rw [bindingsOf, List.filterMap_append, List.mapM_append]
  rfl

theorem bindingsOf_cons (names : List String) (e : Element) {a : Attribute}
    {directive : Directive} (asked : Directive.ofName? a.name = some directive)
    (attributes : List Attribute) :
    e.bindingsOf names (a :: attributes) = (do
      let first ← e.binding names directive a.value
      let others ← e.bindingsOf names attributes
      pure (first :: others)) := by
  rw [bindingsOf, List.filterMap_cons, asked, Option.map_some, List.mapM_cons]
  rfl

theorem bindingsOf_cons_of_none (names : List String) (e : Element) {a : Attribute}
    (asked : Directive.ofName? a.name = none) (attributes : List Attribute) :
    e.bindingsOf names (a :: attributes) = e.bindingsOf names attributes := by
  rw [bindingsOf, List.filterMap_cons, asked, Option.map_none]
  rfl

theorem directive_ne_loop_of_mem {names : List String} {e : Element}
    {attributes : List Attribute} (noLoop : ∀ a ∈ attributes, a.isLoop = false)
    {made : List Binding} (bound : e.bindingsOf names attributes = .ok made) :
    ∀ b ∈ made, b.directive ≠ .loop := by
  induction attributes generalizing made with
  | nil =>
      cases bound
      simp
  | cons a attributes ih =>
      have othersNoLoop : ∀ other ∈ attributes, other.isLoop = false :=
        fun other member => noLoop other (List.mem_cons_of_mem a member)
      cases asked : Directive.ofName? a.name with
      | none =>
          rw [bindingsOf_cons_of_none names e asked] at bound
          exact ih othersNoLoop bound
      | some directive =>
          rw [bindingsOf_cons names e asked] at bound
          obtain ⟨first, firstBound, bound⟩ := bind_eq_ok_iff.mp bound
          obtain ⟨others, othersBound, bound⟩ := bind_eq_ok_iff.mp bound
          cases bound
          obtain ⟨_, _, _, _, rfl⟩ := exists_of_binding_eq_ok firstBound
          intro b member
          rcases List.mem_cons.mp member with rfl | member
          · intro isLoop
            obtain rfl : directive = .loop := isLoop
            have named := List.find?_some asked
            have noLoopFirst := noLoop a List.mem_cons_self
            simp only [Attribute.isLoop, decide_eq_false_iff_not] at noLoopFirst
            exact noLoopFirst (of_decide_eq_true named).symm
          · exact ih othersNoLoop othersBound b member

theorem bindings_eq_ok_iff {names : List String} {e : Element} {bindings : List Binding} :
    e.bindings names = .ok bindings ↔
      ∃ made, e.bindingsOf names e.start.attributes = .ok made ∧
        bindings = Directive.all.flatMap fun directive =>
          made.filter (·.directive = directive) := by
  change (e.bindingsOf names e.start.attributes).map _ = _ ↔ _
  cases e.bindingsOf names e.start.attributes with
  | error failure => exact ⟨nofun, nofun⟩
  | ok made =>
      constructor
      · intro same
        cases same
        exact ⟨made, rfl, rfl⟩
      · rintro ⟨_, same, rfl⟩
        cases same
        rfl

/-- The first loop of an element is bound first; without it the element keeps its
other bindings. -/
theorem bindings_withoutFirstLoop {names : List String} {e : Element} {bindings : List Binding}
    (bound : e.bindings names = .ok bindings)
    (loops : e.start.attributes.any Attribute.isLoop) :
    ∃ value expression others,
      e.get? Directive.loop.attributeName = some value ∧
        Expression.parse names value = .ok expression ∧
        bindings = ⟨.loop, expression⟩ :: others ∧
        e.withoutFirstLoop.bindings names = .ok others := by
  obtain ⟨before, value, after, split, noLoop, without⟩ := StartTag.exists_firstLoop loops
  obtain ⟨made, madeBound, rfl⟩ := bindings_eq_ok_iff.mp bound
  rw [split, bindingsOf_append] at madeBound
  obtain ⟨front, frontBound, madeBound⟩ := bind_eq_ok_iff.mp madeBound
  obtain ⟨_, restBound, madeBound⟩ := bind_eq_ok_iff.mp madeBound
  cases madeBound
  rw [bindingsOf_cons names e rfl] at restBound
  obtain ⟨_, loopBound, restBound⟩ := bind_eq_ok_iff.mp restBound
  obtain ⟨back, backBound, restBound⟩ := bind_eq_ok_iff.mp restBound
  cases restBound
  obtain ⟨written, expression, rfl, parsed, rfl⟩ := exists_of_binding_eq_ok loopBound
  have frontNoLoop : front.filter (·.directive = .loop) = [] := by
    rw [List.filter_eq_nil_iff]
    simpa using directive_ne_loop_of_mem noLoop frontBound
  -- The loops are sorted to the front; none of them comes from before the first loop.
  refine ⟨written, expression,
    Directive.all.flatMap fun directive =>
      (front ++ back).filter (·.directive = directive), ?_, parsed, ?_, ?_⟩
  · have absent : before.find? (fun a => a.name = Directive.loop.attributeName) = none :=
      List.find?_eq_none.mpr fun a member => by simpa [Attribute.isLoop] using noLoop a member
    rw [get?, split, List.find?_append, absent]
    simp
  · simp [Directive.all, frontNoLoop]
  · refine bindings_eq_ok_iff.mpr ⟨front ++ back, ?_, rfl⟩
    change e.bindingsOf names e.start.withoutFirstLoop.attributes = _
    rw [without, bindingsOf_append, frontBound, backBound]
    rfl

end Element

/-! ### The start tag -/

theorem eraseIdx_zip {α β : Type} (first : List α) (second : List β) (index : Nat) :
    (first.zip second).eraseIdx index = (first.eraseIdx index).zip (second.eraseIdx index) := by
  induction first generalizing second index with
  | nil => simp
  | cons a first ih =>
      cases second with
      | nil => simp
      | cons b second =>
          cases index with
          | zero => rfl
          | succ index => simp [ih]

namespace Renderer

theorem attributeText_of_isLoop (r : Renderer) (context : Context) (writtenName : String)
    {a : Attribute} (isLoop : a.isLoop) :
    r.attributeText context writtenName a = .ok "" := by
  have asked : Directive.ofName? a.name = some .loop := by
    rw [of_decide_eq_true isLoop]
    rfl
  rw [attributeText, asked]

theorem startTag_eq_of_changed (r : Renderer) (context : Context) (e : Element)
    (changed : (e.start.attributes.any changesTag || e.start.raw = "") = true) :
    r.startTag context e =
      (fun parts => "<" ++ e.start.writtenName ++ parts ++
        if e.start.selfClosing && e.isVoid then " />" else ">") <$>
      String.join <$> (e.start.writtenAttributes.zip e.start.attributes).mapM
        fun (writtenName, a) => r.attributeText context writtenName a := by
  simp only [startTag]
  rw [if_pos changed]
  cases (e.start.writtenAttributes.zip e.start.attributes).mapM
      fun (writtenName, a) => r.attributeText context writtenName a with
  | error failure => rfl
  | ok parts => rfl

/-- The start tag of a loop is written anew, and the loop leaves nothing in it. -/
theorem startTag_withoutFirstLoop (r : Renderer) (context : Context) {e : Element}
    (loops : e.start.attributes.any Attribute.isLoop) :
    r.startTag context e.withoutFirstLoop = r.startTag context e := by
  have changed : e.start.attributes.any changesTag := by
    obtain ⟨a, member, isLoop⟩ := List.any_eq_true.mp loops
    refine List.any_eq_true.mpr ⟨a, member, ?_⟩
    rw [changesTag, of_decide_eq_true isLoop]
    rfl
  have erased := join_mapM_eraseIdx
    (fun (writtenName, a) => r.attributeText context writtenName a)
    (e.start.writtenAttributes.zip e.start.attributes)
    (e.start.attributes.findIdx Attribute.isLoop) <| by
      rintro ⟨writtenName, a⟩ member
      obtain ⟨_, atIndex⟩ := List.getElem?_zip_eq_some.mp member
      exact r.attributeText_of_isLoop context writtenName
        (List.findIdx_of_getElem?_eq_some atIndex)
  have writtenAnew : e.withoutFirstLoop.start.raw = "" := rfl
  rw [startTag_eq_of_changed r context e (by simp [changed]), ← erased, eraseIdx_zip,
    startTag_eq_of_changed r context e.withoutFirstLoop (by simp [writtenAnew])]
  rfl

/-! ### Rendering -/

theorem emit_withoutFirstLoop (r : Renderer) {e : Element}
    (loops : e.start.attributes.any Attribute.isLoop) (inside : Context → Outcome String) :
    r.emit e.withoutFirstLoop inside = r.emit e inside := by
  funext context content
  simp only [emit]
  rw [r.startTag_withoutFirstLoop context loops]
  rfl

theorem node_element (r : Renderer) (e : Element) (context : Context) :
    r.node (.element e) context = r.element e (r.nodes e.children) context := by
  cases e
  rfl

theorem node_element_of_bindings (r : Renderer) {e : Element} {bindings : List Binding}
    (bound : e.bindings r.names = .ok bindings) (context : Context) :
    r.node (.element e) context =
      (r.applyAll (r.emit e (r.nodes e.children)) bindings context none).withLocation
        e.location := by
  rw [node_element, element, bound]
  rfl

theorem items_of_evaluate (r : Renderer) {context : Context} {expression : Expression}
    {value : Value} (evaluated : expression.evaluate r.tools context = .ok value) :
    r.items context expression = value.toItems.withSource expression.source := by
  rw [items, evaluated]
  rfl

/-- A loop over a sequence applies the bindings after it in the context of each turn. -/
theorem applyAll_loop (r : Renderer) (inside : Context → Option String → Outcome String)
    {context : Context} {expression : Expression} {items : List Value}
    (evaluated : r.items context expression = .ok items) (others : List Binding)
    (content : Option String) :
    r.applyAll inside (⟨.loop, expression⟩ :: others) context content =
      String.join <$> items.zipIdx.mapM fun (item, index) =>
        r.applyAll inside others (context.enterLoop item index items.length) content := by
  rw [applyAll, evaluated, map_eq_pure_bind]
  rfl

/-- An element with a loop is rendered like the element without its first loop in the
context of each turn, and the outputs are joined; the first turn that fails is the
failure of the whole.  A value that is no sequence is refused. -/
theorem node_unrolls_loop (r : Renderer) (e : Element) {bindings : List Binding}
    (bound : e.bindings r.names = .ok bindings)
    (loops : e.start.attributes.any Attribute.isLoop) :
    ∃ written expression,
      e.get? Directive.loop.attributeName = some written ∧
      Expression.parse r.names written = .ok expression ∧
      ∀ context value, expression.evaluate r.tools context = .ok value →
        (∀ items, value.items? = some items →
          r.node (.element e) context =
            String.join <$> items.zipIdx.mapM fun (item, index) =>
              r.node (.element e.withoutFirstLoop)
                (context.enterLoop item index items.length)) ∧
        (value.items? = none →
          ∃ error, r.node (.element e) context = .error (.error error) ∧
            error.kind = .evaluation .badValue ∧
            error.cause = .noSequence value.label ∧
            error.source = some expression.source ∧
            error.location = some e.location) := by
  obtain ⟨written, expression, others, writtenEq, parsed, rfl, othersBound⟩ :=
    Element.bindings_withoutFirstLoop bound loops
  refine ⟨written, expression, writtenEq, parsed, ?_⟩
  intro context value evaluated
  have given := r.items_of_evaluate evaluated
  rw [Value.toItems] at given
  constructor
  · intro items isSequence
    rw [isSequence] at given
    -- Both elements have one place, so the errors of a turn get the location of the loop.
    have turn (item : Value) (index : Nat) :
        r.node (.element e.withoutFirstLoop) (context.enterLoop item index items.length) =
          (r.applyAll (r.emit e (r.nodes e.children)) others
            (context.enterLoop item index items.length) none).withLocation e.location := by
      rw [r.node_element_of_bindings othersBound, r.emit_withoutFirstLoop loops]
      rfl
    simp only [turn]
    rw [r.node_element_of_bindings bound context, r.applyAll_loop _ given others none,
      Outcome.withLocation, Outcome.annotate_map, Outcome.annotate_mapM]
    rfl
  · intro noSequence
    rw [noSequence] at given
    rw [r.node_element_of_bindings bound context, applyAll, given]
    exact ⟨_, rfl, rfl, rfl, rfl, rfl⟩

/-- A list item for every tag. -/
def tagItem : Element :=
  ⟨⟨"li", [⟨":loop", some "$tags"⟩, ⟨":text", some "$loop.it"⟩],
    "<li :loop='$tags' :text='$loop.it'>", "li", [":loop", ":text"], false⟩, .start, [], true⟩

theorem node_unrolls_loop_over_tags :
    let r : Renderer := ⟨.builtin, ["tags"]⟩
    let context : Context :=
      .ofNamespaces [("tags", .list [.string "go", .string "lean"])] .default
    (r.node (.element tagItem) context =
      String.join <$> [Value.string "go", .string "lean"].zipIdx.mapM fun (item, index) =>
        r.node (.element tagItem.withoutFirstLoop) (context.enterLoop item index 2)) ∧
      r.node (.element tagItem) context = .ok "<li>go</li><li>lean</li>" := by
  refine ⟨?_, by decide +kernel⟩
  obtain ⟨bindings, bound⟩ : ∃ bindings, tagItem.bindings ["tags"] = .ok bindings := by
    have succeeds : (tagItem.bindings ["tags"]).toOption.isSome := by decide +kernel
    cases outcome : tagItem.bindings ["tags"] with
    | error failure =>
        rw [outcome] at succeeds
        cases succeeds
    | ok bindings => exact ⟨bindings, rfl⟩
  obtain ⟨_, ⟨source, root, steps⟩, writtenEq, parsed, unrolls⟩ :=
    node_unrolls_loop ⟨.builtin, ["tags"]⟩ tagItem bound rfl
  cases writtenEq
  have shape : (Expression.parse ["tags"] "$tags").toOption.map
      (fun expression => (expression.root, expression.steps.length)) = some ("tags", 0) := by
    decide +kernel
  rw [show Expression.parse ["tags"] "$tags" = _ from parsed] at shape
  cases steps with
  | cons step steps => simp [Except.toOption] at shape
  | nil =>
      obtain rfl : root = "tags" := by simpa [Except.toOption] using shape
      exact (unrolls _ (.list [.string "go", .string "lean"]) rfl).1 _ rfl

end Renderer

end LayoutBinding
