import LayoutBinding.Entries
import LayoutBinding.Fault
import LayoutBinding.FilePath

/-!
# Files and folders

A store holds files below one folder.  A path is followed name by name; two
points lead back to the folder above, but only from a folder that exists.
Writing a file makes the folders on the way to it, and removing a file leaves
them.
-/

namespace LayoutBinding

structure StoredFile where
  content : List UInt8
  modified : Int
deriving DecidableEq

/-- Files and folders, each known by the names on the way to it. -/
structure FileStore where
  /-- The number of bytes in the path of the folder that holds the store. -/
  depth : Nat
  folders : List (List String)
  files : List (List String × StoredFile)

namespace FileStore

/-- A store with some folders and no files. -/
def ofFolders (depth : Nat) (folders : List (List String)) : FileStore :=
  ⟨depth, [] :: folders, []⟩

def isFolder (store : FileStore) (place : List String) : Bool :=
  store.folders.contains place

def isFile (store : FileStore) (place : List String) : Bool :=
  Entries.contains store.files place

/-- The greatest number of bytes in the name of a file. -/
def nameLimit : Nat :=
  255

/-- The greatest number of bytes in a path. -/
def pathLimit : Nat :=
  4095

def follow (store : FileStore) : List String → List String → Except Fault (List String)
  | here, [] => .ok here
  | here, name :: names =>
      if store.isFile here then
        .error .notFolder
      else if !store.isFolder here then
        .error .fileNotFound
      else if name = ".." then
        if here = [] then .error .fileNotFound else follow store here.dropLast names
      else if nameLimit < name.utf8ByteSize then
        .error .unusableFile
      else
        follow store (here ++ [name]) names
termination_by structural _ names => names

/-- Whether no name of a path holds a null character. -/
def hasGoodNames (path : FilePath) : Bool :=
  path.components.all (!·.toList.contains '\x00')

/-- The place that a path leads to. -/
def locate (store : FileStore) (path : FilePath) : Except Fault (List String) :=
  if !hasGoodNames path then
    .error .badName
  else if pathLimit < store.depth + 1 + path.toString.utf8ByteSize then
    .error .unusableFile
  else
    store.follow [] path.components

/-- The file at a path, if there is one. -/
def fileAt? (store : FileStore) (path : FilePath) : Except Fault (Option StoredFile) :=
  match store.locate path with
  | .ok place => .ok (Entries.get? store.files place)
  | .error .fileNotFound => .ok none
  | .error .notFolder => .ok none
  | .error .badName => .ok none
  | .error fault => .error fault

/-- Follow names from a place, and make the folders that do not exist. -/
def enter (store : FileStore) :
    List String → List String → Except Fault (FileStore × List String)
  | here, [] => .ok (store, here)
  | here, name :: names =>
      if name = ".." then
        if here = [] then .error .fileNotFound else enter store here.dropLast names
      else if nameLimit < name.utf8ByteSize then
        .error .unusableFile
      else
        let place := here ++ [name]
        if store.isFile place then
          .error (if names = [] then .fileInTheWay else .notFolder)
        else if store.isFolder place then
          enter store place names
        else
          enter { store with folders := store.folders ++ [place] } place names
termination_by structural _ names => names

/-- Write a file, and make the folders on the way to it. -/
def write (store : FileStore) (path : FilePath) (content : List UInt8) (modified : Int) :
    Except Fault FileStore :=
  match path.components.getLast? with
  | none => .error .folderInTheWay
  | some name => do
      if !hasGoodNames path then throw .badName
      let (made, folder) ← store.enter [] path.components.dropLast
      let place := folder ++ [name]
      if name = ".." ∨ made.isFolder place then
        throw .folderInTheWay
      else if nameLimit < name.utf8ByteSize then
        throw .unusableFile
      else
        pure { made with files := Entries.put made.files place ⟨content, modified⟩ }

/-- Set the time of the last change of a file; folders have none. -/
def touch (store : FileStore) (path : FilePath) (modified : Int) : Except Fault FileStore := do
  let place ← store.locate path
  match Entries.get? store.files place with
  | some file =>
      pure { store with files := Entries.put store.files place { file with modified := modified } }
  | none => if store.isFolder place then pure store else throw .fileNotFound

def remove (store : FileStore) (path : FilePath) : Except Fault FileStore := do
  let place ← store.locate path
  if store.isFile place then
    pure { store with files := store.files.filter (·.1 ≠ place) }
  else if store.isFolder place then
    throw .folderInTheWay
  else
    throw .fileNotFound

end FileStore

end LayoutBinding
