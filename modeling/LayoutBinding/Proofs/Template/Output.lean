import LayoutBinding.Proofs.Template.Gathering
import LayoutBinding.Template.Rendering

/-!
# The output of an element

An element has a start tag, and then nothing, or the content that it was given and an
end tag, or what is inside it.
-/

namespace LayoutBinding

def StartTag.endTag (tag : StartTag) : String :=
  "</" ++ tag.writtenName ++ ">"

namespace Renderer

variable (r : Renderer) {e : Element} (inside : Context → Outcome String) (context : Context)

theorem emit_of_isVoid (isVoid : e.isVoid = true) (content : Option String) :
    r.emit e inside context content = r.startTag context e := by
  simp only [emit, isVoid]
  exact bind_pure _

theorem emit_of_selfClosing (selfClosing : e.start.selfClosing = true) :
    r.emit e inside context none = r.startTag context e := by
  simp only [emit, selfClosing]
  cases e.isVoid <;> exact bind_pure _

theorem emit_of_given (noVoid : e.isVoid = false) (given : String) :
    r.emit e inside context (some given) =
      (fun start => start ++ given ++ e.start.endTag) <$> r.startTag context e := by
  simp only [emit, noVoid]
  rfl

theorem emit_of_opens (opens : e.start.opens = true) :
    r.emit e inside context none = (do
      let start ← r.startTag context e
      let inner ← inside context
      pure (start ++ inner ++ if e.closed then e.start.endTag else "")) := by
  obtain ⟨noSlash, noVoid⟩ : e.start.selfClosing = false ∧ e.isVoid = false := by
    simpa [StartTag.opens, Element.isVoid] using opens
  simp only [emit, noSlash, noVoid]
  rfl

/-- An element that does not stay open has nothing after its start tag, unless it is
given a content. -/
theorem emit_of_alone (alone : e.start.opens = false) :
    r.emit e inside context none = r.startTag context e := by
  cases selfClosing : e.start.selfClosing with
  | true => exact r.emit_of_selfClosing inside context selfClosing
  | false =>
      have isVoid : e.isVoid = true := by
        simpa [StartTag.opens, Element.isVoid, selfClosing] using alone
      exact r.emit_of_isVoid inside context isVoid none

/-- The value of an attribute without a directive is escaped after its expressions are
replaced. -/
theorem attributeText_of_some (context : Context) (writtenName : String) {a : Attribute}
    {value : String} (asked : Directive.ofName? a.name = none) (given : a.value = some value) :
    r.attributeText context writtenName a =
      (fun filled => " " ++ writtenName ++ "=\"" ++ escapeHtml filled ++ "\"") <$>
        if mayHoldExpression value then r.interpolate context value else pure value := by
  simp only [attributeText, asked, given]
  split <;> rfl

end Renderer

end LayoutBinding
