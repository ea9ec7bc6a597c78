import LayoutBinding.Config
import LayoutBinding.Link.Anchor
import LayoutBinding.Link.Index
import LayoutBinding.Page.Forest

/-!
# The links of a site

The index of a site holds every page of a forest.  Two pages must not have the
same identifier; the one that is visited later is reported.
-/

namespace LayoutBinding

namespace Page

/-- The anchors of a page: those that are stated and those declared in its
source. -/
def allAnchors (page : Page) : Outcome (List Value) :=
  if Value.areMembers page.anchors then
    .ok (page.anchors ++ (declaredAnchors page.source).map .string)
  else
    .stop .wrongSort

end Page

namespace LinkIndex

/-- Add a page to an index under construction. -/
def addPage (base : String) (trailingSlash : Bool) (index : LinkIndex) (page : Page) :
    Outcome LinkIndex :=
  let id := normalizeId page.path
  if Entries.contains index.urls id then
    .stop (.duplicatePage id page.path)
  else do
    let anchors ← page.allAnchors
    pure
      ⟨Entries.put index.urls id (LayoutBinding.pageUrl base id trailingSlash),
        Entries.put index.anchors id anchors⟩

/-- The index of the pages of a forest. -/
def ofPages (base : String) (trailingSlash : Bool) (pages : List Page) : Outcome LinkIndex := do
  let index ← (Page.allVisited pages).foldlM (addPage base trailingSlash) ⟨[], []⟩
  pure (ofTables index.urls index.anchors)

/-- The index of the pages of a forest.  The base and the slash of the configuration are taken
where none are given. -/
def fromPages (pages : List Page) (base : Option String) (trailingSlash : Option Bool)
    (config : Option Config) : Outcome LinkIndex :=
  let config := config.getD .default
  ofPages (base.getD config.baseUrl) (trailingSlash.getD config.trailingSlash) pages

end LinkIndex

end LayoutBinding
