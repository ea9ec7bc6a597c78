import LayoutBinding.Text.Trim
import LayoutBinding.Character.Case

/-!
# Texts

A text is plain, or it is trusted: finished HTML that is inserted as it is.
Changing the case of a text and trimming it keep its standing.
-/

namespace LayoutBinding

/-- A text and its standing towards HTML. -/
structure Text where
  content : String
  /-- Whether the characters are finished HTML. -/
  trusted : Bool
deriving DecidableEq

namespace Text

/-- A text that has to be escaped where HTML is expected. -/
def plain (content : String) : Text :=
  ⟨content, false⟩

/-- A text that is finished HTML. -/
def markup (content : String) : Text :=
  ⟨content, true⟩

/-- Apply a function on characters, keeping the standing of the text. -/
def mapChars (f : List Char → List Char) (t : Text) : Text :=
  ⟨String.ofList (f t.content.toList), t.trusted⟩

def upper (t : Text) : Text :=
  t.mapChars Character.upperAll

def lower (t : Text) : Text :=
  t.mapChars Character.lowerAll

def trimmed (t : Text) : Text :=
  t.mapChars (trim Character.isBlank)

end Text

end LayoutBinding
