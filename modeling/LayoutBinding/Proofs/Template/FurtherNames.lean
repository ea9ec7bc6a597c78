import LayoutBinding.Body
import LayoutBinding.Proofs.Evaluation.FurtherNames
import LayoutBinding.Proofs.Expression.FurtherNames

/-!
# Rendering where more names are declared and bound

Declaring a further namespace makes more expressions readable, and binding one makes more
of them succeed.  A template or a body that is rendered without it holds no expression
that it could change, so its output stays.
-/

namespace LayoutBinding

/-- A text whose segments are processed is cut into the same ones with further names. -/
theorem Segment.within_process {names more : List String} (among : names ⊆ more) (text : String)
    {ε α : Type} (failed : Error → ε) {f g : Segment → Except ε α}
    (each : ∀ segment, Within (f segment) (g segment)) :
    Within ((scan names text).process failed f) ((scan more text).process failed g) := by
  intro results succeeds
  have finished : (scan names text).failure = none := by
    obtain ⟨values, -, ends⟩ := bind_eq_ok_iff.mp succeeds
    cases failure : (scan names text).failure with
    | none => rfl
    | some error =>
        rw [failure] at ends
        cases ends
  rw [scan_mono among finished]
  exact (Within.mapM each _).bind (fun _ => .refl _) results succeeds

theorem within_substitute {names more : List String} (among : names ⊆ more) (text : String)
    {ε : Type} (failed : Error → ε) {f g : Expression → Except ε String}
    (each : ∀ x, Within (f x) (g x)) :
    Within (substitute names text failed f) (substitute more text failed g) := by
  refine (Segment.within_process among text failed fun segment => ?_).bind fun _ => .refl _
  cases segment.expression with
  | none => exact .refl _
  | some x => exact each x

namespace Element

theorem within_binding {names more : List String} (among : names ⊆ more) (e : Element)
    (directive : Directive) (value : Option String) :
    Within (e.binding names directive value) (e.binding more directive value) := by
  unfold binding
  dsimp only
  split
  · exact .refl _
  · split
    · exact .refl _
    · cases parsed : Expression.parse names (value.getD "") with
      | error failure => exact .of_error _ _
      | ok x =>
          rw [Expression.parse_mono among parsed]
          exact .refl _

theorem within_bindings {names more : List String} (among : names ⊆ more) (e : Element) :
    Within (e.bindings names) (e.bindings more) :=
  (Within.mapM (fun (directive, value) => within_binding among e directive value) _).map _

end Element

namespace Renderer

section

variable {names more : List String} (among : names ⊆ more) (functions : FunctionTable)
  {context smaller : Context} (extended : context.Extends smaller)

/-! ### Start tags -/

include extended

theorem within_shown (x : Expression) :
    Within ((Renderer.mk (.withFunctions functions) names).shown smaller x)
      ((Renderer.mk (.withFunctions functions) more).shown context x) :=
  ((x.within_evaluate extended functions).bind fun _ => .refl _).annotate _ _

theorem within_items (x : Expression) :
    Within ((Renderer.mk (.withFunctions functions) names).items smaller x)
      ((Renderer.mk (.withFunctions functions) more).items context x) :=
  ((x.within_evaluate extended functions).bind fun _ => .refl _).annotate _ _

include among

theorem within_attributeText (writtenName : String) (a : Attribute) :
    Within ((Renderer.mk (.withFunctions functions) names).attributeText smaller writtenName a)
      ((Renderer.mk (.withFunctions functions) more).attributeText context writtenName a) := by
  unfold attributeText
  split
  · exact .refl _
  · exact .refl _
  · dsimp only
    split
    · exact (within_substitute among _ _ fun x =>
        (within_shown functions extended x).map _).bind fun _ => .refl _
    · exact .refl _

theorem within_startTag (e : Element) :
    Within ((Renderer.mk (.withFunctions functions) names).startTag smaller e)
      ((Renderer.mk (.withFunctions functions) more).startTag context e) := by
  unfold startTag
  dsimp only
  split
  · exact (Within.mapM (fun (writtenName, a) =>
      within_attributeText among functions extended writtenName a) _).bind fun _ => .refl _
  · exact .refl _

end

/-! ### Elements -/

section

variable {names more : List String} (among : names ⊆ more) (functions : FunctionTable)

include among

theorem within_emit (e : Element) {inside inside' : Context → Outcome String}
    (within : ∀ context smaller, Context.Extends context smaller →
      Within (inside smaller) (inside' context))
    {context smaller : Context} (extended : context.Extends smaller) (content : Option String) :
    Within ((Renderer.mk (.withFunctions functions) names).emit e inside smaller content)
      ((Renderer.mk (.withFunctions functions) more).emit e inside' context content) := by
  unfold emit
  refine (within_startTag among functions extended e).bind fun start => ?_
  dsimp only
  split
  · exact .refl _
  · split
    · exact .refl _
    · split
      · exact .refl _
      · exact (within _ _ extended).bind fun _ => .refl _

omit among in
theorem within_applyAll {inside inside' : Context → Option String → Outcome String}
    (within : ∀ context smaller, Context.Extends context smaller → ∀ content,
      Within (inside smaller content) (inside' context content))
    (bindings : List Binding) {context smaller : Context} (extended : context.Extends smaller)
    (content : Option String) :
    Within ((Renderer.mk (.withFunctions functions) names).applyAll inside bindings smaller content)
      ((Renderer.mk (.withFunctions functions) more).applyAll inside' bindings context content) := by
  induction bindings generalizing context smaller content with
  | nil => exact within _ _ extended content
  | cons binding bindings ih =>
      obtain ⟨directive, x⟩ := binding
      cases directive with
      | loop =>
          refine (within_items functions extended x).bind fun items => ?_
          exact (Within.mapM (fun (item, index) =>
            ih (extended.enterLoop item index items.length) content) _).bind fun _ => .refl _
      | text => exact (within_shown functions extended x).bind fun _ => ih extended _
      | html => exact (within_shown functions extended x).bind fun _ => ih extended _

theorem within_element (e : Element) {inside inside' : Context → Outcome String}
    (within : ∀ context smaller, Context.Extends context smaller →
      Within (inside smaller) (inside' context))
    {context smaller : Context} (extended : context.Extends smaller) :
    Within ((Renderer.mk (.withFunctions functions) names).element e inside smaller)
      ((Renderer.mk (.withFunctions functions) more).element e inside' context) := by
  refine Within.annotate (Within.bind ?_ fun bindings => ?_) _ _
  · intro bindings bound
    cases given : e.bindings names with
    | error failure =>
        rw [given] at bound
        cases bound
    | ok written =>
        rw [given] at bound
        rw [Element.within_bindings among e _ given]
        exact bound
  · exact within_applyAll functions (fun _ _ further content =>
      within_emit among functions e within further content) bindings extended none

end

mutual

theorem within_node {names more : List String} (among : names ⊆ more)
    (functions : FunctionTable) : ∀ (n : Node) (context smaller : Context),
      context.Extends smaller →
        Within ((Renderer.mk (.withFunctions functions) names).node n smaller)
          ((Renderer.mk (.withFunctions functions) more).node n context)
  | .raw _, _, _, _ => .refl _
  | .element ⟨_, _, children, _⟩, _, _, extended =>
      within_element among functions _ (within_nodes among functions children) extended
termination_by structural n => n

theorem within_nodes {names more : List String} (among : names ⊆ more)
    (functions : FunctionTable) : ∀ (ns : List Node) (context smaller : Context),
      context.Extends smaller →
        Within ((Renderer.mk (.withFunctions functions) names).nodes ns smaller)
          ((Renderer.mk (.withFunctions functions) more).nodes ns context)
  | [], _, _, _ => .refl _
  | n :: others, context, smaller, extended =>
      (within_node among functions n context smaller extended).bind fun _ =>
        (within_nodes among functions others context smaller extended).bind fun _ => .refl _
termination_by structural ns => ns

end

/-! ### Templates and bodies -/

theorem within_body {names more : List String} (among : names ⊆ more) (functions : FunctionTable)
    {context smaller : Context} (extended : context.Extends smaller) (escape : Bool)
    (text : String) :
    Within ((Renderer.mk (.withFunctions functions) names).body smaller escape text)
      ((Renderer.mk (.withFunctions functions) more).body context escape text) := by
  refine (Segment.within_process among text _ fun segment => ?_).bind fun _ => .refl _
  cases segment.expression with
  | none => exact .refl _
  | some x => exact (x.within_evaluate extended functions).bind fun _ => .refl _

/-- Further names are a conservative extension: a template or a body that is rendered keeps
its output, its hints and its anchors where more namespaces are declared and bound. -/
theorem rendered_with_further_names (functions : FunctionTable) {names more : List String}
    (among : names ⊆ more) {context smaller : Context} (extended : context.Extends smaller) :
    (∀ t output, (Renderer.mk (.withFunctions functions) names).template t smaller = .ok output →
      (Renderer.mk (.withFunctions functions) more).template t context = .ok output) ∧
    ∀ escape text body,
      (Renderer.mk (.withFunctions functions) names).body smaller escape text = .ok body →
        (Renderer.mk (.withFunctions functions) more).body context escape text = .ok body :=
  ⟨fun t => within_nodes among functions t.nodes context smaller extended,
    within_body among functions extended⟩

def titledContext (extra : List (String × Value)) : Context :=
  .ofPage (.record [("title", .string "Go")]) none .default extra

/-- A doubled dollar sign keeps the name of a namespace that is declared later a word. -/
theorem rendered_with_further_names_site :
    let small : Renderer := ⟨.withFunctions fun _ _ => .ok none, []⟩
    let large : Renderer := ⟨.withFunctions fun _ _ => .ok none, ["site"]⟩
    let t : Template := ⟨[.element ⟨⟨"p", [⟨"title", some "$$site: $page.title"⟩], "", "p",
      ["title"], false⟩, .start, [.raw "$site"], true⟩], none⟩
    let text := "$$site costs $5.$section.id(\"$$site\")$block.collapsible(true)"
    (titledContext [("site", .string "docs")]).Extends (titledContext []) ∧
      small.template t (titledContext []) = .ok "<p title=\"$site: Go\">$site</p>" ∧
      large.template t (titledContext [("site", .string "docs")]) =
        .ok "<p title=\"$site: Go\">$site</p>" ∧
      ∃ body, body.html = "$site costs $5.<a id=\"$$site\"></a>" ∧ body.hints.length = 1 ∧
        body.anchors.length = 1 ∧ small.body (titledContext []) false text = .ok body ∧
        large.body (titledContext [("site", .string "docs")]) false text = .ok body := by
  intro small large t text
  have extended : (titledContext [("site", .string "docs")]).Extends (titledContext []) :=
    Context.extends_ofPage _ none .default (by decide)
  have rendered : small.template t (titledContext []) =
      .ok "<p title=\"$site: Go\">$site</p>" := by decide +kernel
  have computed : (small.body (titledContext []) false text).toOption.map
      (fun body => (body.html, body.hints.length, body.anchors.length)) =
        some ("$site costs $5.<a id=\"$$site\"></a>", 1, 1) := by decide +kernel
  obtain ⟨body, read, shape⟩ := Option.map_eq_some_iff.mp computed
  have read := toOption_eq_some_iff.mp read
  simp only [Prod.mk.injEq] at shape
  obtain ⟨stays, staysBody⟩ := rendered_with_further_names (fun _ _ => .ok none)
    (List.nil_subset ["site"]) extended
  exact ⟨extended, rendered, stays t _ rendered, body, shape.1, shape.2.1, shape.2.2, read,
    staysBody false text body read⟩

end Renderer

end LayoutBinding
