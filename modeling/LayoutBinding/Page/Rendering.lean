import LayoutBinding.Layout.Library
import LayoutBinding.Template.Rendering

/-!
# Rendered pages

A page is rendered with the layout that it names.  A layout that has been loaded
stays known even if the page cannot be rendered with it.
-/

namespace LayoutBinding

namespace Page

def layoutName (page : Page) : Outcome String :=
  if page.layout.isTruthy then
    match page.layout with
    | .text t => .ok t.content
    | .bytes _ => .stop .wrongSort
    | _ => .stop .missingMember
  else
    .refuse (.noLayout page.path)

def loadLayout (page : Page) (library : LayoutLibrary) (store : FileStore) :
    Outcome (ReadLayout × LayoutLibrary) := do
  let name ← page.layoutName
  (library.load store name).mapError .fault

/-- Render a page with its layout.  Namespaces that are bound in addition may be
used in the layout. -/
def render (page : Page) (tools : Toolbox) (library : LayoutLibrary) (store : FileStore)
    (index : Option LinkIndex) (config : Config) (extra : List (String × Value)) :
    Outcome String × LayoutLibrary :=
  match page.loadLayout library store with
  | .error failure => (.error failure, library)
  | .ok (layout, after) =>
      ((Renderer.mk tools (Entries.keys extra)).template layout.template
        (.ofPage (.page page) index config extra), after)

end Page

end LayoutBinding
