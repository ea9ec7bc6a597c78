import LayoutBinding.Link.Index

/-!
# References

A reference names a page, an anchor of a page, or an anchor of the current
page: `blog/first`, `blog/first#setup`, `#setup` or just `setup`.
-/

namespace LayoutBinding

namespace LinkIndex

/-- Whether a character ends the page part of a reference. -/
def isHash (c : Char) : Bool :=
  c = '#'

/-- The page part of a reference and the anchor after the first number sign, if
there is one. -/
def splitReference (reference : Text) : Text × Option Text :=
  let cs := reference.content.toList
  let page : Text :=
    ⟨String.ofList (cs.takeWhile fun c => !isHash c), reference.trusted⟩
  match cs.dropWhile fun c => !isHash c with
  | [] => (page, none)
  | _ :: anchor => (page, some ⟨String.ofList anchor, reference.trusted⟩)

def ownAnchorUrl (index : LinkIndex) (current : Option String) (anchor : Value) :
    Outcome String :=
  match current with
  | some path => index.anchorUrl (.plain path) anchor
  | none => .refuse (.noCurrentPage anchor.quoted)

/-- The address that a reference to an anchor leads to.  Without a page part it
is an anchor of the current page. -/
def referenceUrl (index : LinkIndex) (current : Option String) (reference : Text) :
    Outcome String :=
  match splitReference reference with
  | (_, none) => index.ownAnchorUrl current (.text reference)
  | (page, some anchor) =>
      if isBlankText page.content then
        index.ownAnchorUrl current (.text anchor)
      else
        index.anchorUrl page (.text anchor)

end LinkIndex

end LayoutBinding
