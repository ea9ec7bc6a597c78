import LayoutBinding.Text.Escape
import LayoutBinding.Text.Reference

/-!
# Escaped texts

Two facts about the way in which plain text is written as HTML are all that is used of it: no
character is left that can open or close markup or an attribute value, and with its references
read back the text is the same.
-/

namespace LayoutBinding

/-- A way to write plain text as HTML. -/
structure IsEscaping (encode : List Char → List Char) : Prop where
  noMarkup : ∀ cs, (encode cs).filter Escape.isMarkupChar = []
  decodes : ∀ cs, Reference.decode (encode cs) = some cs

theorem IsEscaping.quote_notMem {encode : List Char → List Char} (escapes : IsEscaping encode)
    (cs : List Char) : '"' ∉ encode cs := by
  intro member
  have left : '"' ∈ (encode cs).filter Escape.isMarkupChar :=
    List.mem_filter.mpr ⟨member, rfl⟩
  rw [escapes.noMarkup] at left
  cases left

namespace Reference

theorem decode_cons_of_ne {c : Char} (other : c ≠ '&') (cs : List Char) :
    decode (c :: cs) = (decode cs).map (c :: ·) := by
  rw [decode, if_neg other]

theorem decode_of_reference? (cs : List Char) {image : List Char} {length : Nat}
    (found : reference? cs = some ⟨some image, length⟩) :
    decode ('&' :: cs) = (decode (cs.drop length)).map (image ++ ·) := by
  rw [decode, if_pos rfl, found]
  dsimp only
  cases decode (cs.drop length) <;> rfl

theorem decode_encodeChar_append (c : Char) (rest : List Char) :
    decode (Escape.encodeChar c ++ rest) = (decode rest).map (c :: ·) := by
  unfold Escape.encodeChar
  split
  next same =>
    subst same
    exact decode_of_reference? ('a' :: 'm' :: 'p' :: ';' :: rest) rfl
  split
  next same =>
    subst same
    exact decode_of_reference? ('l' :: 't' :: ';' :: rest) rfl
  split
  next same =>
    subst same
    exact decode_of_reference? ('g' :: 't' :: ';' :: rest) rfl
  split
  next same =>
    subst same
    exact decode_of_reference? ('#' :: '3' :: '9' :: ';' :: rest) rfl
  split
  next same =>
    subst same
    exact decode_of_reference? ('#' :: '3' :: '4' :: ';' :: rest) rfl
  next other _ _ _ _ => exact decode_cons_of_ne other rest

theorem decode_encode (cs : List Char) : decode (Escape.encode cs) = some cs := by
  induction cs with
  | nil => rw [Escape.encode_nil, decode]
  | cons c cs ih => rw [Escape.encode_cons, decode_encodeChar_append, ih, Option.map_some]

end Reference

theorem Escape.isEscaping_encode : IsEscaping encode where
  noMarkup := filter_isMarkupChar_encode
  decodes := Reference.decode_encode

end LayoutBinding
