import LayoutBinding.Text.Basic

/-!
# Page identifiers

Different spellings of an identifier name one page: blanks and slashes around
it, one file suffix, and a final `index` do not count.  The page at the root has
the empty identifier.
-/

namespace LayoutBinding

namespace Identifier

/-- Take a suffix off, if the text ends with it. -/
def dropSuffix? (suffix cs : List Char) : Option (List Char) :=
  if suffix.isSuffixOf cs then some (cs.take (cs.length - suffix.length)) else none

/-- Take one file suffix off. -/
def dropFileSuffix (cs : List Char) : List Char :=
  (dropSuffix? ".md".toList cs <|> dropSuffix? ".html".toList cs).getD cs

/-- Take a final `index` off, together with the slash before it. -/
def dropIndex (cs : List Char) : List Char :=
  if cs = "index".toList then [] else (dropSuffix? "/index".toList cs).getD cs

def isSlash (c : Char) : Bool :=
  c = '/'

/-- An identifier without the blanks and slashes around it and one file suffix. -/
def stem (cs : List Char) : List Char :=
  dropFileSuffix (trim isSlash (trim Character.isBlank cs))

/-- The common spelling of an identifier. -/
def normalize (cs : List Char) : List Char :=
  dropIndex (stem cs)

end Identifier

/-- The common spelling of an identifier. -/
def normalizeId (id : String) : String :=
  String.ofList (Identifier.normalize id.toList)

/-- The common spelling of an identifier.  It keeps the standing of the text, but
for the lone word that stands for the root, which a plain text takes the place
of. -/
def Text.normalizedId (id : Text) : Text :=
  if Identifier.stem id.content.toList = "index".toList then
    .plain ""
  else
    id.mapChars Identifier.normalize

theorem Text.content_normalizedId (id : Text) :
    id.normalizedId.content = normalizeId id.content := by
  unfold normalizedId
  split
  case isTrue root =>
    rw [normalizeId, Identifier.normalize, Identifier.dropIndex, if_pos root]
    rfl
  case isFalse => rfl

theorem Text.normalizedId_plain (id : String) :
    (Text.plain id).normalizedId = .plain (normalizeId id) := by
  unfold normalizedId
  split
  case isTrue root =>
    rw [normalizeId, Identifier.normalize, Identifier.dropIndex]
    exact congrArg Text.plain (congrArg String.ofList (if_pos root)).symm
  case isFalse => rfl

/-- The address of a page below a base address.  The page at the root has the
base address with a slash at its end. -/
def pageUrl (base id : String) (trailingSlash : Bool) : String :=
  let stem := String.ofList (trimEnd Identifier.isSlash (if base = "" then "/" else base).toList)
  if id = "" then
    stem ++ "/"
  else if trailingSlash then
    stem ++ "/" ++ id ++ "/"
  else
    stem ++ "/" ++ id

end LayoutBinding
