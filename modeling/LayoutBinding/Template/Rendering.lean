import LayoutBinding.Evaluation.Chain
import LayoutBinding.Expression.Segment
import LayoutBinding.Template.Directive

/-!
# Rendering

A template is rendered in document order.  An element that binds nothing keeps
its start tag as it was written; another one gets a start tag of its remaining
attributes, whose embedded expressions are replaced and escaped.  An error names
the element and the expression that failed, and nothing is rendered.
-/

namespace LayoutBinding

/-- What a rendering uses besides a template and a context. -/
structure Renderer where
  tools : Toolbox
  /-- The names of namespaces that expressions may use besides the default
  ones. -/
  names : List String

namespace Renderer

/-- The text that an expression has in the output. -/
def shown (r : Renderer) (context : Context) (expression : Expression) : Outcome Text :=
  (expression.evaluate r.tools context >>= Value.toText).withSource expression.source

def items (r : Renderer) (context : Context) (expression : Expression) :
    Outcome (List Value) :=
  (expression.evaluate r.tools context >>= Value.toItems).withSource expression.source

/-- The value of an attribute with its embedded expressions replaced. -/
def interpolate (r : Renderer) (context : Context) (value : String) : Outcome String :=
  substitute r.names value Failure.error fun expression =>
    Text.content <$> r.shown context expression

/-- One attribute of a start tag that is written anew; a directive is left out. -/
def attributeText (r : Renderer) (context : Context) (writtenName : String) (a : Attribute) :
    Outcome String :=
  match Directive.ofName? a.name, a.value with
  | some _, _ => .ok ""
  | none, none => .ok (" " ++ writtenName)
  | none, some value => do
      let value ← if mayHoldExpression value then r.interpolate context value else pure value
      pure (" " ++ writtenName ++ "=\"" ++ escapeHtml value ++ "\"")

/-- Whether an attribute keeps a start tag from being copied. -/
def changesTag (a : Attribute) : Bool :=
  (Directive.ofName? a.name).isSome || a.value.any mayHoldExpression

def startTag (r : Renderer) (context : Context) (e : Element) : Outcome String :=
  let tag := e.start
  if tag.attributes.any changesTag || tag.raw = "" then do
    let parts ← (tag.writtenAttributes.zip tag.attributes).mapM fun (writtenName, a) =>
      r.attributeText context writtenName a
    pure ("<" ++ tag.writtenName ++ String.join parts ++
      if tag.selfClosing && e.isVoid then " />" else ">")
  else
    .ok tag.raw

/-- An element with its content replaced, or else with what is inside it. -/
def emit (r : Renderer) (e : Element) (inside : Context → Outcome String) (context : Context)
    (content : Option String) : Outcome String := do
  let start ← r.startTag context e
  let endTag := "</" ++ e.start.writtenName ++ ">"
  if e.isVoid then
    pure start
  else
    match content with
    | some given => pure (start ++ given ++ endTag)
    | none =>
        if e.start.selfClosing then
          pure start
        else do
          let inner ← inside context
          pure (start ++ inner ++ if e.closed then endTag else "")

/-- Apply bindings in order, and then render what they bind in the context and
with the content that they give. -/
def applyAll (r : Renderer) (inside : Context → Option String → Outcome String) :
    List Binding → Context → Option String → Outcome String
  | [], context, content => inside context content
  | ⟨.loop, expression⟩ :: bindings, context, content => do
      let items ← r.items context expression
      let turns ← items.zipIdx.mapM fun (item, index) =>
        applyAll r inside bindings (context.enterLoop item index items.length) content
      pure (String.join turns)
  | ⟨.text, expression⟩ :: bindings, context, _ => do
      let t ← r.shown context expression
      applyAll r inside bindings context (some (escapeHtml t.content))
  | ⟨.html, expression⟩ :: bindings, context, _ => do
      let t ← r.shown context expression
      applyAll r inside bindings context (some t.content)

/-- Render an element, given how to render what is inside it. -/
def element (r : Renderer) (e : Element) (inside : Context → Outcome String)
    (context : Context) : Outcome String :=
  (do
    let bindings ← Outcome.ofExcept (e.bindings r.names)
    r.applyAll (r.emit e inside) bindings context none).withLocation e.location

mutual

def node (r : Renderer) : Node → Context → Outcome String
  | .raw text, _ => .ok text
  | .element ⟨start, place, children, closed⟩, context =>
      r.element ⟨start, place, children, closed⟩ (nodes r children) context
termination_by structural n => n

def nodes (r : Renderer) : List Node → Context → Outcome String
  | [], _ => .ok ""
  | n :: rest, context => do
      let first ← node r n context
      let others ← nodes r rest context
      pure (first ++ others)
termination_by structural ns => ns

end

def template (r : Renderer) (t : Template) (context : Context) : Outcome String :=
  r.nodes t.nodes context

end Renderer

end LayoutBinding
