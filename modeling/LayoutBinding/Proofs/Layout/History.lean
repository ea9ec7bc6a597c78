import LayoutBinding.Layout.Library
import LayoutBinding.Proofs.Layout.PathText

/-!
# Layouts while files change

Files are written, touched and removed while a library loads layouts from them.  What the
library remembers of a layout was in its file at some time.  So where the time of a file's
last change tells what the file holds, a layout that is loaded is what its file holds now.
-/

namespace LayoutBinding

/-! ### Files -/

/-- The layout that a file holds, under the name that the layout gets. -/
def StoredFile.template (file : StoredFile) (name : String) : Except Fault Template :=
  match readText? file.content with
  | none => .error .undecodable
  | some source => Template.parse source (some name)

namespace FileStore

/-- No path ever has two different contents with the same time of change. -/
def TimesTell (stores : List FileStore) : Prop :=
  ∀ first ∈ stores, ∀ second ∈ stores, ∀ path file other,
    first.fileAt? path = .ok (some file) → second.fileAt? path = .ok (some other) →
      file.modified = other.modified → file.content = other.content

theorem exists_of_fileAt? {store : FileStore} {path : FilePath} {file : StoredFile}
    (found : store.fileAt? path = .ok (some file)) : ∃ place, (place, file) ∈ store.files := by
  unfold fileAt? at found
  split at found
  next place _ => exact ⟨place, Entries.mem_of_get? (Except.ok.inj found)⟩
  all_goals cases found

/-- The times tell the contents apart if they do so among all files whatever their paths. -/
theorem timesTell_of_files {stores : List FileStore}
    (apart : ∀ file ∈ stores.flatMap files, ∀ other ∈ stores.flatMap files,
      file.2.modified = other.2.modified → file.2.content = other.2.content) :
    TimesTell stores := by
  intro first firstMember second secondMember path file other found otherFound
  obtain ⟨place, member⟩ := exists_of_fileAt? found
  obtain ⟨otherPlace, otherMember⟩ := exists_of_fileAt? otherFound
  exact apart (place, file) (List.mem_flatMap.mpr ⟨first, firstMember, member⟩)
    (otherPlace, other) (List.mem_flatMap.mpr ⟨second, secondMember, otherMember⟩)

end FileStore

/-! ### What a load does -/

namespace LayoutLibrary

theorem exists_of_find? {store : FileStore} {name : FilePath} {folders : List FilePath}
    {path : FilePath} {file : StoredFile}
    (found : find? store name folders = .ok (some (path, file))) :
    (∃ folder ∈ folders, path = folder.join name) ∧ store.fileAt? path = .ok (some file) := by
  induction folders with
  | nil => cases found
  | cons folder folders ih =>
      obtain ⟨asked, here, found⟩ := bind_eq_ok_iff.mp found
      cases asked with
      | some other =>
          cases found
          exact ⟨⟨folder, List.mem_cons_self, rfl⟩, here⟩
      | none =>
          obtain ⟨⟨later, member, same⟩, holds⟩ := ih found
          exact ⟨⟨later, List.mem_cons_of_mem folder member, same⟩, holds⟩

theorem read_eq (library : LayoutLibrary) (store : FileStore) (name : String) :
    library.read store name = (do
      match ← find? store (.ofString name) library.folders with
      | none => throw (.layoutNotFound name)
      | some (path, file) =>
          let template ← file.template path.toString
          pure ⟨template, path, file.modified, library.count⟩) := by
  unfold read
  refine bind_congr fun found => ?_
  rcases found with - | ⟨path, file⟩
  · rfl
  · dsimp only [StoredFile.template]
    cases readText? file.content <;> rfl

theorem exists_of_read {library : LayoutLibrary} {store : FileStore} {name : String}
    {found : ReadLayout} (reads : library.read store name = .ok found) :
    ∃ file, find? store (.ofString name) library.folders = .ok (some (found.path, file)) ∧
      file.modified = found.modified ∧
      file.template found.path.toString = .ok found.template := by
  rw [read_eq] at reads
  obtain ⟨asked, first, reads⟩ := bind_eq_ok_iff.mp reads
  rcases asked with - | ⟨path, file⟩
  · cases reads
  · obtain ⟨template, opened, made⟩ := bind_eq_ok_iff.mp reads
    cases made
    exact ⟨file, first, rfl, opened⟩

theorem exists_of_isCurrent {store : FileStore} {layout : ReadLayout}
    (current : isCurrent store layout = .ok true) :
    ∃ file, store.fileAt? layout.path = .ok (some file) ∧ file.modified = layout.modified := by
  obtain ⟨asked, found, same⟩ := bind_eq_ok_iff.mp current
  cases asked with
  | none => cases same
  | some file => exact ⟨file, found, of_decide_eq_true (Except.ok.inj same)⟩

theorem exists_of_current? {library : LayoutLibrary} {store : FileStore} {name : String}
    {layout : ReadLayout} (current : library.current? store name = .ok (some layout)) :
    Entries.get? library.known name = some layout ∧ isCurrent store layout = .ok true := by
  unfold current? at current
  split at current
  · cases current
  next known isKnown =>
    obtain ⟨fits, asked, given⟩ := bind_eq_ok_iff.mp current
    cases fits with
    | false => cases given
    | true =>
        cases given
        exact ⟨isKnown, asked⟩

/-- A library that has loaded a layout remembered it, or has read it just now. -/
theorem load_cases {library next : LayoutLibrary} {store : FileStore} {layout : String}
    {found : ReadLayout} (loads : library.load store layout = .ok (found, next)) :
    (library.current? store (normalizeLayout layout) = .ok (some found) ∧ next = library) ∨
      (library.current? store (normalizeLayout layout) = .ok none ∧
        library.read store (normalizeLayout layout) = .ok found ∧
        next = ⟨library.folders, Entries.put library.known (normalizeLayout layout) found,
          library.count + 1⟩) := by
  obtain ⟨asked, current, loads⟩ := bind_eq_ok_iff.mp loads
  cases asked with
  | some known =>
      cases loads
      exact .inl ⟨current, rfl⟩
  | none =>
      obtain ⟨new, reads, made⟩ := bind_eq_ok_iff.mp loads
      cases made
      exact .inr ⟨current, reads, rfl⟩

end LayoutLibrary

/-! ### What is remembered -/

/-- A layout was in its file, below one of some folders, in one of some stores. -/
structure ReadLayout.IsFrom (layout : ReadLayout) (name : String) (folders : List FilePath)
    (stores : List FileStore) : Prop where
  folder : ∃ folder ∈ folders, layout.path = folder.join (.ofString name)
  file : ∃ store ∈ stores, ∃ file, store.fileAt? layout.path = .ok (some file) ∧
    file.modified = layout.modified ∧
    file.template layout.path.toString = .ok layout.template

/-- A layout whose file has the same time of change again is what the file holds. -/
theorem ReadLayout.IsFrom.template_eq {layout : ReadLayout} {name : String}
    {folders : List FilePath} {stores : List FileStore}
    (isFrom : layout.IsFrom name folders stores) (tell : FileStore.TimesTell stores)
    {store : FileStore} (member : store ∈ stores) {file : StoredFile}
    (found : store.fileAt? layout.path = .ok (some file))
    (same : file.modified = layout.modified) :
    file.template layout.path.toString = .ok layout.template := by
  obtain ⟨earlier, among, read, foundThen, modified, opened⟩ := isFrom.file
  have content : file.content = read.content :=
    tell store member earlier among _ file read found foundThen (same.trans modified.symm)
  unfold StoredFile.template at opened ⊢
  rwa [content]

/-- Whatever a library knows was in its file in one of some stores. -/
def LayoutLibrary.Remembers (library : LayoutLibrary) (stores : List FileStore) : Prop :=
  ∀ name layout, Entries.get? library.known name = some layout →
    layout.IsFrom name library.folders stores

namespace LayoutLibrary

theorem remembers_ofFolders (folders : List FilePath) : (ofFolders folders).Remembers [] :=
  nofun

theorem Remembers.mono {library : LayoutLibrary} {stores others : List FileStore}
    (remembers : library.Remembers stores) (among : stores ⊆ others) :
    library.Remembers others := by
  intro name layout known
  obtain ⟨folder, store, member, rest⟩ := remembers name layout known
  exact ⟨folder, store, among member, rest⟩

theorem isFrom_of_read {library : LayoutLibrary} {store : FileStore} {name : String}
    {found : ReadLayout} (reads : library.read store name = .ok found)
    {stores : List FileStore} (member : store ∈ stores) :
    found.IsFrom name library.folders stores := by
  obtain ⟨file, first, modified, opened⟩ := exists_of_read reads
  obtain ⟨below, here⟩ := exists_of_find? first
  exact ⟨below, store, member, file, here, modified, opened⟩

theorem Remembers.load {library next : LayoutLibrary} {stores : List FileStore}
    (remembers : library.Remembers stores) {store : FileStore} (member : store ∈ stores)
    {layout : String} {found : ReadLayout}
    (loads : library.load store layout = .ok (found, next)) : next.Remembers stores := by
  rcases load_cases loads with ⟨-, rfl⟩ | ⟨-, reads, rfl⟩
  · exact remembers
  · intro name known isKnown
    dsimp only at isKnown ⊢
    by_cases same : normalizeLayout layout = name
    · subst same
      rw [Entries.get?_put_self] at isKnown
      cases isKnown
      exact isFrom_of_read reads member
    · rw [Entries.get?_put_of_ne _ _ same] at isKnown
      exact remembers name known isKnown

/-- A layout that a library loads was in its file, and its file has the time of change that
it had then. -/
theorem Remembers.of_load {library next : LayoutLibrary} {stores : List FileStore}
    (remembers : library.Remembers stores) {store : FileStore} (member : store ∈ stores)
    {layout : String} {found : ReadLayout}
    (loads : library.load store layout = .ok (found, next)) :
    found.IsFrom (normalizeLayout layout) library.folders stores ∧
      ∃ file, store.fileAt? found.path = .ok (some file) ∧ file.modified = found.modified := by
  rcases load_cases loads with ⟨current, -⟩ | ⟨-, reads, -⟩
  · obtain ⟨known, isCurrent⟩ := exists_of_current? current
    exact ⟨remembers _ found known, exists_of_isCurrent isCurrent⟩
  · obtain ⟨file, first, modified, -⟩ := exists_of_read reads
    exact ⟨isFrom_of_read reads member, file, (exists_of_find? first).2, modified⟩

end LayoutLibrary

/-! ### Runs -/

/-- A change of the files, or the loading of a layout. -/
inductive LayoutAction where
  | write (path : FilePath) (content : List UInt8) (modified : Int)
  /-- The time of the last change of a file is set. -/
  | touch (path : FilePath) (modified : Int)
  | remove (path : FilePath)
  | load (layout : String)

/-- Files, and a library of layouts that are read from them. -/
structure LayoutShelf where
  store : FileStore
  library : LayoutLibrary

namespace LayoutShelf

/-- Files with a library that has read nothing yet. -/
def ofFolders (store : FileStore) (folders : List FilePath) : LayoutShelf :=
  ⟨store, .ofFolders folders⟩

/-- The layout that loading gives. -/
def loaded (shelf : LayoutShelf) (layout : String) : Except Fault ReadLayout :=
  Prod.fst <$> shelf.library.load shelf.store layout

/-- What a change of the files leaves. -/
def changed (shelf : LayoutShelf) (store : Except Fault FileStore) : LayoutShelf :=
  { shelf with store := store.toOption.getD shelf.store }

def act (shelf : LayoutShelf) : LayoutAction → LayoutShelf
  | .write path content modified => shelf.changed (shelf.store.write path content modified)
  | .touch path modified => shelf.changed (shelf.store.touch path modified)
  | .remove path => shelf.changed (shelf.store.remove path)
  | .load layout =>
      match shelf.library.load shelf.store layout with
      | .ok (_, library) => { shelf with library := library }
      | .error _ => shelf

/-- What actions leave. -/
def after (shelf : LayoutShelf) (actions : List LayoutAction) : LayoutShelf :=
  actions.foldl act shelf

def stores (shelf : LayoutShelf) : List LayoutAction → List FileStore
  | [] => [shelf.store]
  | action :: actions => shelf.store :: (shelf.act action).stores actions

theorem store_after_mem_stores (shelf : LayoutShelf) (actions : List LayoutAction) :
    (shelf.after actions).store ∈ shelf.stores actions := by
  induction actions generalizing shelf with
  | nil => exact List.mem_cons_self
  | cons action actions ih => exact List.mem_cons_of_mem _ (ih (shelf.act action))

@[simp]
theorem folders_act (shelf : LayoutShelf) (action : LayoutAction) :
    (shelf.act action).library.folders = shelf.library.folders := by
  cases action with
  | load layout =>
      unfold act
      dsimp only
      split
      next loads => rcases LayoutLibrary.load_cases loads with ⟨-, rfl⟩ | ⟨-, -, rfl⟩ <;> rfl
      next => rfl
  | _ => rfl

@[simp]
theorem folders_after (shelf : LayoutShelf) (actions : List LayoutAction) :
    (shelf.after actions).library.folders = shelf.library.folders := by
  induction actions generalizing shelf with
  | nil => rfl
  | cons action actions ih => exact (ih _).trans (shelf.folders_act action)

theorem remembers_act {shelf : LayoutShelf} {stores : List FileStore}
    (remembers : shelf.library.Remembers stores) (member : shelf.store ∈ stores)
    (action : LayoutAction) : (shelf.act action).library.Remembers stores := by
  cases action with
  | load layout =>
      unfold act
      dsimp only
      split
      next loads => exact remembers.load member loads
      next => exact remembers
  | _ => exact remembers

/-- After any actions what is remembered was in its file at some time. -/
theorem remembers_after {shelf : LayoutShelf} {stores : List FileStore}
    (remembers : shelf.library.Remembers stores) {actions : List LayoutAction}
    (among : shelf.stores actions ⊆ stores) :
    (shelf.after actions).library.Remembers stores := by
  induction actions generalizing shelf with
  | nil => exact remembers
  | cons action actions ih =>
      obtain ⟨member, among⟩ := List.cons_subset.mp among
      exact ih (remembers_act remembers member action) among

theorem remembers_after_ofFolders (store : FileStore) (folders : List FilePath)
    (actions : List LayoutAction) :
    ((ofFolders store folders).after actions).library.Remembers
      ((ofFolders store folders).stores actions) :=
  remembers_after ((LayoutLibrary.remembers_ofFolders folders).mono (List.nil_subset _))
    (List.Subset.refl _)

/-- A site with a folder of its own layouts and one of default layouts, both empty. -/
def emptySite : LayoutShelf :=
  ofFolders (.ofFolders 16 [["user"], ["default"]]) [.ofString "user", .ofString "default"]

end LayoutShelf

end LayoutBinding
