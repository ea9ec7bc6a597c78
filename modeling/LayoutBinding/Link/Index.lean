import LayoutBinding.Link.Identifier
import LayoutBinding.Value.Member
import LayoutBinding.Value.Quoted

/-!
# The index of links

The index holds the address and the anchors of every page under the common
spelling of its identifier.
-/

namespace LayoutBinding

namespace LinkIndex

/-- A table whose keys are spelled in the common way; of two keys that become
equal the second one counts. -/
def normalized {α : Type} (entries : List (String × α)) : List (String × α) :=
  entries.foldl (fun acc entry => Entries.put acc (normalizeId entry.1) entry.2) []

/-- The index of the given addresses and anchors. -/
def ofTables (urls : List (String × String)) (anchors : List (String × List Value)) :
    LinkIndex :=
  ⟨normalized urls, (normalized anchors).map fun entry => (entry.1, Value.distinct entry.2)⟩

def size (index : LinkIndex) : Nat :=
  index.urls.length

def contains (index : LinkIndex) (id : String) : Bool :=
  Entries.contains index.urls (normalizeId id)

def pageUrl (index : LinkIndex) (id : Text) : Outcome String :=
  match Entries.get? index.urls (normalizeId id.content) with
  | some url => .ok url
  | none => .refuse (.noPage id)

/-- The anchors under the common spelling of an identifier. -/
def anchorsOf (index : LinkIndex) (page : String) : List Value :=
  (Entries.get? index.anchors page).getD []

def anchorUrl (index : LinkIndex) (id : Text) (anchor : Value) : Outcome String := do
  let page := id.normalizedId
  let url ← index.pageUrl page
  if anchor.isMember then
    if anchor.isAmong (index.anchorsOf page.content) then
      let written ← anchor.written
      pure (url ++ "#" ++ written.content)
    else
      .refuse (.noAnchor page anchor.quoted)
  else
    .stop .wrongSort

end LinkIndex

end LayoutBinding
