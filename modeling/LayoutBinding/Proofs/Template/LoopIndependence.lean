import LayoutBinding.Proofs.Evaluation.LoopIndependence
import LayoutBinding.Proofs.Template.RenderingOrder

/-!
# Rendering in another loop

Where no expression of a node starts from the loop namespace, the output of the node or its
error does not depend on the loops around it.  This holds with loops inside the node, too: their
frames link to different frames around them, but no expression follows that link.
-/

namespace LayoutBinding

/-! ### Expressions of a node -/

def Segment.expressions (names : List String) (text : String) : List Expression :=
  (scan names text).segments.filterMap Segment.expression

/-- The expressions of an attribute: that of a directive is its whole value. -/
def Attribute.expressions (names : List String) (a : Attribute) : List Expression :=
  match Directive.ofName? a.name, a.value with
  | _, none => []
  | some _, some written => (Expression.parse names written).toOption.toList
  | none, some written => Segment.expressions names written

mutual

/-- The expressions of the attributes of a node and of all that is inside it. -/
def Node.expressions (names : List String) : Node → List Expression
  | .raw _ => []
  | .element ⟨start, _, children, _⟩ =>
      start.attributes.flatMap (Attribute.expressions names) ++
        Node.expressionsOfAll names children
termination_by structural node => node

def Node.expressionsOfAll (names : List String) : List Node → List Expression
  | [] => []
  | node :: nodes => node.expressions names ++ Node.expressionsOfAll names nodes
termination_by structural nodes => nodes

end

/-- Replacing embedded expressions depends on what is given for these expressions only. -/
theorem substitute_congr {ε : Type} {names : List String} {text : String} {failed : Error → ε}
    {f g : Expression → Except ε String}
    (same : ∀ x ∈ Segment.expressions names text, f x = g x) :
    substitute names text failed f = substitute names text failed g := by
  unfold substitute Scan.process
  rw [mapM_congr]
  intro segment member
  cases given : segment.expression with
  | none => rfl
  | some x => exact same x (List.mem_filterMap.mpr ⟨segment, member, given⟩)

theorem Attribute.Binds.mem_expressions {names : List String} {a : Attribute}
    {directive : Directive} {x : Expression} (binds : a.Binds names directive x) :
    x ∈ a.expressions names := by
  obtain ⟨asked, written, given, parsed⟩ := binds
  simp [expressions, asked, given, parsed, Except.toOption]

namespace Renderer

/-! ### Elements -/

section

variable {r : Renderer} (ignores : r.tools.IgnoresFrames) (context : Context)
  (frame : Option LoopFrame)

include ignores

theorem shown_inFrame {x : Expression} (free : "loop" ∉ x.roots) :
    r.shown (context.inFrame frame) x = r.shown context x := by
  rw [shown, shown, x.evaluate_inFrame ignores context frame free]

theorem items_inFrame {x : Expression} (free : "loop" ∉ x.roots) :
    r.items (context.inFrame frame) x = r.items context x := by
  rw [items, items, x.evaluate_inFrame ignores context frame free]

theorem attributeText_inFrame (writtenName : String) {a : Attribute}
    (free : ∀ x ∈ a.expressions r.names, "loop" ∉ x.roots) :
    r.attributeText (context.inFrame frame) writtenName a =
      r.attributeText context writtenName a := by
  obtain ⟨name, value⟩ := a
  unfold attributeText
  cases asked : Directive.ofName? name with
  | some directive => rfl
  | none =>
      cases value with
      | none => rfl
      | some written =>
          have same : r.interpolate (context.inFrame frame) written =
              r.interpolate context written := by
            refine substitute_congr fun x member => ?_
            have among : x ∈ Attribute.expressions r.names ⟨name, some written⟩ := by
              simpa [Attribute.expressions, asked] using member
            rw [shown_inFrame ignores context frame (free x among)]
          dsimp only
          rw [same]

variable {e : Element}
  (free : ∀ a ∈ e.start.attributes, ∀ x ∈ a.expressions r.names, "loop" ∉ x.roots)

include free

theorem startTag_inFrame :
    r.startTag (context.inFrame frame) e = r.startTag context e := by
  unfold startTag
  dsimp only
  rw [mapM_congr]
  rintro ⟨writtenName, a⟩ member
  exact attributeText_inFrame ignores context frame writtenName
    (free a (List.of_mem_zip member).2)

end

section

variable {r : Renderer} (ignores : r.tools.IgnoresFrames)

include ignores

theorem emit_inFrame {e : Element}
    (free : ∀ a ∈ e.start.attributes, ∀ x ∈ a.expressions r.names, "loop" ∉ x.roots)
    {inside : Context → Outcome String}
    (independent : ∀ context frame, inside (Context.inFrame context frame) = inside context)
    (context : Context) (frame : Option LoopFrame) (content : Option String) :
    r.emit e inside (context.inFrame frame) content = r.emit e inside context content := by
  unfold emit
  rw [startTag_inFrame ignores context frame free, independent]

/-- Each turn of a loop has its own frame, whatever the frame around it is. -/
theorem applyAll_inFrame {inside : Context → Option String → Outcome String}
    (independent : ∀ context frame content,
      inside (Context.inFrame context frame) content = inside context content)
    {bindings : List Binding} (free : ∀ b ∈ bindings, "loop" ∉ b.expression.roots)
    (context : Context) (frame : Option LoopFrame) (content : Option String) :
    r.applyAll inside bindings (context.inFrame frame) content =
      r.applyAll inside bindings context content := by
  induction bindings generalizing context frame content with
  | nil => exact independent context frame content
  | cons binding bindings ih =>
      obtain ⟨directive, x⟩ := binding
      obtain ⟨freeHere, freeOthers⟩ := List.forall_mem_cons.mp free
      cases directive with
      | loop =>
          rw [applyAll, applyAll, items_inFrame ignores context frame freeHere]
          simp only [context.enterLoop_inFrame frame, ih freeOthers]
      | text =>
          rw [applyAll, applyAll, shown_inFrame ignores context frame freeHere]
          simp only [ih freeOthers]
      | html =>
          rw [applyAll, applyAll, shown_inFrame ignores context frame freeHere]
          simp only [ih freeOthers]

theorem element_inFrame {e : Element}
    (free : ∀ a ∈ e.start.attributes, ∀ x ∈ a.expressions r.names, "loop" ∉ x.roots)
    {inside : Context → Outcome String}
    (independent : ∀ context frame, inside (Context.inFrame context frame) = inside context)
    (context : Context) (frame : Option LoopFrame) :
    r.element e inside (context.inFrame frame) = r.element e inside context := by
  unfold element
  cases bound : e.bindings r.names with
  | error failure => rfl
  | ok bindings =>
      have freeBindings : ∀ b ∈ bindings, "loop" ∉ b.expression.roots := by
        intro b member
        obtain ⟨a, among, binds⟩ := Element.exists_binds bound member
        exact free a among b.expression binds.mem_expressions
      congr 1
      exact applyAll_inFrame ignores (emit_inFrame ignores free independent) freeBindings
        context frame none

end

/-! ### Nodes -/

mutual

/-- A node none of whose expressions starts from the loop namespace is rendered alike in every
loop and outside of loops. -/
theorem node_inFrame {r : Renderer} (ignores : r.tools.IgnoresFrames) : ∀ n : Node,
    (∀ x ∈ n.expressions r.names, "loop" ∉ x.roots) →
      ∀ (context : Context) (frame : Option LoopFrame),
        r.node n (context.inFrame frame) = r.node n context
  | .raw _, _, _, _ => rfl
  | .element ⟨start, place, children, closed⟩, free, context, frame => by
      rw [Node.expressions, List.forall_mem_append] at free
      refine element_inFrame ignores (e := ⟨start, place, children, closed⟩) ?_
        (nodes_inFrame ignores children free.2) context frame
      exact fun a among x member => free.1 x (List.mem_flatMap.mpr ⟨a, among, member⟩)
termination_by structural n => n

theorem nodes_inFrame {r : Renderer} (ignores : r.tools.IgnoresFrames) : ∀ ns : List Node,
    (∀ x ∈ Node.expressionsOfAll r.names ns, "loop" ∉ x.roots) →
      ∀ (context : Context) (frame : Option LoopFrame),
        r.nodes ns (context.inFrame frame) = r.nodes ns context
  | [], _, _, _ => rfl
  | n :: others, free, context, frame => by
      rw [Node.expressionsOfAll, List.forall_mem_append] at free
      rw [nodes, nodes, node_inFrame ignores n free.1 context frame,
        nodes_inFrame ignores others free.2 context frame]
termination_by structural ns => ns

end

/-- With the built-in formatters a node none of whose expressions, and none of the expressions
among their arguments, starts from the loop namespace has the same output or the same error in
any two contexts that bind the same namespaces under the same configuration, whatever loops they
stand in.  So it is rendered alike in all turns of the loops around it. -/
theorem node_independent_of_loops (functions : FunctionTable) (names : List String) {n : Node}
    (free : ∀ x ∈ n.expressions names, "loop" ∉ x.roots) :
    let r : Renderer := ⟨.withFunctions functions, names⟩
    (∀ first second : Context, first.namespaces = second.namespaces →
      first.config = second.config → r.node n first = r.node n second) ∧
      ∀ (context : Context) (turns others : List (Value × Int × Int)),
        r.node n (context.enterLoops turns) = r.node n (context.enterLoops others) := by
  intro r
  have ignores : r.tools.IgnoresFrames := Toolbox.ignoresFrames_withFunctions functions
  have alike (first second : Context) (namespaces : first.namespaces = second.namespaces)
      (config : first.config = second.config) : r.node n first = r.node n second := by
    rw [Context.eq_inFrame namespaces config]
    exact node_inFrame ignores n free second first.frame
  refine ⟨alike, fun context turns others => alike _ _ ?_ ?_⟩
  · rw [Context.namespaces_enterLoops, Context.namespaces_enterLoops]
  · rw [Context.config_enterLoops, Context.config_enterLoops]

/-- A list of some tags, each with the title of the page. -/
def titledTags : Node :=
  .element ⟨⟨"ul", [⟨"title", some "Tags of $page.title"⟩], "", "ul", ["title"], false⟩, .start,
    [.element ⟨⟨"li", [⟨":loop", some "$page.tags.limit($page.most)"⟩,
      ⟨":text", some "$page.title.upper()"⟩], "", "li", [":loop", ":text"], false⟩, .start, [],
      true⟩], true⟩

/-- The inner loop has frames of its own in every turn of the loops around the list. -/
theorem node_independent_of_loops_titledTags :
    let r : Renderer := ⟨.withFunctions fun _ _ => .ok none, []⟩
    let page : Value := .record [("title", .string "Go"), ("most", .whole 2),
      ("tags", .list [.string "a", .string "b", .string "c"])]
    let context : Context := .ofNamespaces [("page", page)] .default
    let output := "<ul title=\"Tags of Go\"><li>GO</li><li>GO</li></ul>"
    (∀ x ∈ titledTags.expressions [], "loop" ∉ x.roots) ∧
      r.node titledTags context = .ok output ∧
      (context.enterLoop page 0 1).namespaces = context.namespaces ∧
      (context.enterLoop page 0 1).config = context.config ∧
      r.node titledTags (context.enterLoop page 0 1) = .ok output ∧
      ∀ turns, r.node titledTags (context.enterLoops turns) = .ok output := by
  intro r page context output
  have free : ∀ x ∈ titledTags.expressions [], "loop" ∉ x.roots := by decide +kernel
  have rendered : r.node titledTags context = .ok output := by decide +kernel
  obtain ⟨alike, inTurns⟩ := node_independent_of_loops (fun _ _ => .ok none) [] free
  exact ⟨free, rendered, rfl, rfl,
    (alike (context.enterLoop page 0 1) context rfl rfl).trans rendered,
    fun turns => (inTurns context turns []).trans rendered⟩

end Renderer

end LayoutBinding
