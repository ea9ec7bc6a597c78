import LayoutBinding.FileStore
import LayoutBinding.Layout.Name
import LayoutBinding.Template.Builder
import LayoutBinding.Text.Newline

/-!
# Libraries of layouts

A layout is looked up in some folders in order.  A library remembers what it has
read, and reads a layout again only when the file that it was read from is gone
or has changed.
-/

namespace LayoutBinding

/-- A layout that has been read. -/
structure ReadLayout where
  template : Template
  path : FilePath
  /-- The time of the last change of the file when it was read. -/
  modified : Int
  /-- How many layouts had been read before. -/
  serial : Nat

/-- The layouts in some folders. -/
structure LayoutLibrary where
  /-- The folders, the one that is searched first at the front. -/
  folders : List FilePath
  /-- The layouts that have been read, by their names. -/
  known : List (String × ReadLayout)
  count : Nat

namespace LayoutLibrary

/-- A library that has read nothing. -/
def ofFolders (folders : List FilePath) : LayoutLibrary :=
  ⟨folders, [], 0⟩

/-- The first file of a name in some folders. -/
def find? (store : FileStore) (name : FilePath) :
    List FilePath → Except Fault (Option (FilePath × StoredFile))
  | [] => .ok none
  | folder :: folders => do
      let path := folder.join name
      match ← store.fileAt? path with
      | some file => pure (some (path, file))
      | none => find? store name folders

/-- Whether a layout that has been read still is what its file holds, going by
the time of the last change. -/
def isCurrent (store : FileStore) (layout : ReadLayout) : Except Fault Bool := do
  match ← store.fileAt? layout.path with
  | some file => pure (file.modified = layout.modified)
  | none => pure false

/-- The layout of a name that has been read and is current. -/
def current? (library : LayoutLibrary) (store : FileStore) (name : String) :
    Except Fault (Option ReadLayout) :=
  match Entries.get? library.known name with
  | none => .ok none
  | some layout => do
      if ← isCurrent store layout then pure (some layout) else pure none

def read (library : LayoutLibrary) (store : FileStore) (name : String) :
    Except Fault ReadLayout := do
  match ← find? store (.ofString name) library.folders with
  | none => throw (.layoutNotFound name)
  | some (path, file) =>
      match readText? file.content with
      | none => throw .undecodable
      | some source =>
          let template ← Template.parse source (some path.toString)
          pure ⟨template, path, file.modified, library.count⟩

def load (library : LayoutLibrary) (store : FileStore) (layout : String) :
    Except Fault (ReadLayout × LayoutLibrary) := do
  let name := normalizeLayout layout
  match ← library.current? store name with
  | some known => pure (known, library)
  | none =>
      let new ← library.read store name
      pure (new, ⟨library.folders, Entries.put library.known name new, library.count + 1⟩)

end LayoutLibrary

end LayoutBinding
