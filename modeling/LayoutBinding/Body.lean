import LayoutBinding.Evaluation.Chain
import LayoutBinding.Template.Rendering

/-!
# Bodies

The expressions in the prose of a page are replaced by their texts.  Block hints
and section anchors among them are collected in order.
-/

namespace LayoutBinding

structure Body where
  html : String
  /-- The block hints, each a name and a value. -/
  hints : List (String × Value)
  /-- The section anchors, each by its name. -/
  anchors : List Value

namespace Body

def empty : Body :=
  ⟨"", [], []⟩

/-- A body followed by another one. -/
def append (first second : Body) : Body :=
  ⟨first.html ++ second.html, first.hints ++ second.hints, first.anchors ++ second.anchors⟩

def concat (parts : List Body) : Body :=
  parts.foldr append empty

/-- The text of a value, with the hint or the anchor that the value is. -/
def ofValue (value : Value) (html : String) : Body :=
  match value with
  | .hint name content => ⟨html, [(name, content)], []⟩
  | .anchor id => ⟨html, [], [id]⟩
  | _ => ⟨html, [], []⟩

/-- The last hint whether the block can be collapsed, if there is one. -/
def collapsible (body : Body) : Option Bool :=
  (body.hints.reverse.find? fun hint => hint.1 = "collapsible").map fun hint =>
    hint.2.isTruthy

end Body

namespace Renderer

def bodyPart (r : Renderer) (context : Context) (escape : Bool) (expression : Expression) :
    Outcome Body := do
  let value ← expression.evaluate r.tools context
  let shown ← value.toText
  pure (.ofValue value (if escape then shown.escaped.content else shown.content))

/-- Render the text of a body; on request what expressions give is escaped. -/
def body (r : Renderer) (context : Context) (escape : Bool) (text : String) : Outcome Body := do
  let parts ← (Segment.scan r.names text).process Failure.error fun segment =>
    match segment.expression with
    | none => pure ⟨segment.text, [], []⟩
    | some expression => r.bodyPart context escape expression
  pure (.concat parts)

end Renderer

end LayoutBinding
