/-!
# File paths

A path is a list of components, below a root or not.  Empty components and
single points do not count; two points lead to the folder above.  Whoever
follows a path decides what that folder is; by the names alone it is the one
that the component before stands in.
-/

namespace LayoutBinding

structure FilePath where
  /-- The root: empty for a relative path, else one or two slashes. -/
  root : String
  /-- The components, none of them empty or a single point. -/
  components : List String
deriving DecidableEq

namespace FilePath

/-- Whether a component counts. -/
def counts (component : String) : Bool :=
  component ≠ "" && component ≠ "."

/-- The parts of a text between slashes. -/
def split (cs : List Char) : List (List Char) :=
  cs.splitOn '/'

/-- The root of a path: two slashes are kept, three or more count as one. -/
def rootOf : List Char → String
  | '/' :: '/' :: '/' :: _ => "/"
  | '/' :: '/' :: _ => "//"
  | '/' :: _ => "/"
  | _ => ""

def ofString (s : String) : FilePath :=
  ⟨rootOf s.toList, ((split s.toList).map String.ofList).filter counts⟩

/-- The text of a path; the empty relative path is a single point. -/
def toString (path : FilePath) : String :=
  if path.root = "" ∧ path.components = [] then
    "."
  else
    path.root ++ "/".intercalate path.components

def join (folder path : FilePath) : FilePath :=
  if path.root = "" then ⟨folder.root, folder.components ++ path.components⟩ else path

/-- Add a component to resolved ones, of which the last is the first of the list.
Two points take the component before them away; a relative path may start with
them. -/
def resolveStep (relative : Bool) (before : List String) (component : String) : List String :=
  if component = ".." then
    match before with
    | [] => if relative then [component] else []
    | last :: others => if last = ".." then component :: last :: others else others
  else
    component :: before

/-- The path with two points resolved by the names alone. -/
def resolved (path : FilePath) : FilePath :=
  ⟨path.root, (path.components.foldl (resolveStep (path.root = "")) []).reverse⟩

/-- The name of the user whose home a component stands for; the current user has
the empty name. -/
def user? (component : String) : Option String :=
  match component.toList with
  | '~' :: name => some (String.ofList name)
  | _ => none

/-- Replace a first component that stands for a home, given the homes of users;
there is no result if the home is not known. -/
def expandHome? (homes : List (String × String)) (path : FilePath) : Option FilePath :=
  match path.components with
  | [] => some path
  | first :: rest =>
      match if path.root = "" then user? first else none with
      | none => some path
      | some user => (homes.lookup user).map fun home => (ofString home).join ⟨"", rest⟩

end FilePath

end LayoutBinding
