import LayoutBinding.Text.Trim

/-!
# Names of layouts

A layout is named by the path of its file.  Blanks around it and slashes before
it do not count, and the file suffix may be left out.
-/

namespace LayoutBinding

namespace LayoutName

/-- The suffixes of files that are layouts. -/
def suffixes : List String :=
  [".html", ".htm"]

/-- Whether a name has the suffix of a layout. -/
def hasSuffix (cs : List Char) : Bool :=
  suffixes.any fun suffix => suffix.toList.isSuffixOf cs

/-- The common spelling of the name of a layout. -/
def normalize (cs : List Char) : List Char :=
  let name := trimStart (· = '/') (trim Character.isBlank cs)
  if hasSuffix name then name else name ++ ".html".toList

end LayoutName

/-- The common spelling of the name of a layout. -/
def normalizeLayout (name : String) : String :=
  String.ofList (LayoutName.normalize name.toList)

end LayoutBinding
