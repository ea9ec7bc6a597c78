import LayoutBinding.Text.Escape
import LayoutBinding.Value.Quoted

/-!
# Values in output

Only the missing value, texts, numbers, truth values and values that know their
HTML have a text in the output.  A loop needs a list or a tuple.
-/

namespace LayoutBinding

namespace Value

/-- The HTML of a declared anchor, given that of its name. -/
def anchorElement (name : String) : String :=
  "<a id=\"" ++ name ++ "\"></a>"

/-- The HTML of the name of an anchor.  A trusted text and another anchor stand as
they are, a hint shows nothing, and all else is escaped. -/
def anchorName : Value → Outcome String
  | .text t => .ok t.escaped.content
  | .hint .. => .ok ""
  | .anchor id => anchorElement <$> anchorName id
  | .foreign _ (some html) => .ok (escapeHtml html)
  | other => do
      let t ← other.written
      pure t.escaped.content
termination_by structural value => value

/-- The text of a value in the output. -/
def toText : Value → Outcome Text
  | .absent => .ok (.plain "")
  | .text t => .ok t
  | .hint .. => .ok (.markup "")
  | .anchor id => do
      let name ← anchorName id
      pure (.markup (anchorElement name))
  | .foreign _ (some html) => .ok (.markup html)
  | .truth b => .ok (.plain (if b then "true" else "false"))
  | .whole n =>
      match Numeral.limited? n with
      | some digits => .ok (.plain digits)
      | none => .stop .numberTooLong
  | .double d => .ok (.plain d.text)
  | .date d => .refuse (.noText (label (.date d)) true)
  | .moment m => .refuse (.noText (label (.moment m)) true)
  | value => .refuse (.noText value.label false)

/-- The items of a value that a loop goes through. -/
def toItems (value : Value) : Outcome (List Value) :=
  match value.items? with
  | some items => .ok items
  | none => .refuse (.noSequence value.label)

end Value

end LayoutBinding
