import LayoutBinding.Text.Basic

/-!
# Escaping for HTML

The five characters with a meaning in HTML are replaced by references.  The
main statement is that none of the four characters that can open or close
markup or an attribute value is left.
-/

namespace LayoutBinding

namespace Escape

def encodeChar (c : Char) : List Char :=
  if c = '&' then
    ['&', 'a', 'm', 'p', ';']
  else if c = '<' then
    ['&', 'l', 't', ';']
  else if c = '>' then
    ['&', 'g', 't', ';']
  else if c = '\'' then
    ['&', '#', '3', '9', ';']
  else if c = '"' then
    ['&', '#', '3', '4', ';']
  else
    [c]

def encode (cs : List Char) : List Char :=
  cs.flatMap encodeChar

/-- The characters that can open or close markup or an attribute value. -/
def isMarkupChar (c : Char) : Bool :=
  c = '<' || c = '>' || c = '"' || c = '\''

@[simp]
theorem encode_nil : encode [] = [] :=
  rfl

@[simp]
theorem encode_cons (c : Char) (cs : List Char) :
    encode (c :: cs) = encodeChar c ++ encode cs :=
  rfl

theorem filter_isMarkupChar_encodeChar (c : Char) :
    (encodeChar c).filter isMarkupChar = [] := by
  unfold encodeChar
  split
  · decide
  split
  · decide
  split
  · decide
  split
  · decide
  split
  · decide
  · simp_all [isMarkupChar]

theorem filter_isMarkupChar_encode (cs : List Char) :
    (encode cs).filter isMarkupChar = [] := by
  induction cs with
  | nil => rfl
  | cons c cs ih =>
      simp [filter_isMarkupChar_encodeChar, ih]

end Escape

def escapeHtml (s : String) : String :=
  String.ofList (Escape.encode s.toList)

/-- The text as HTML: a trusted text stays as it is. -/
def Text.escaped (t : Text) : Text :=
  if t.trusted then t else .markup (escapeHtml t.content)

end LayoutBinding
