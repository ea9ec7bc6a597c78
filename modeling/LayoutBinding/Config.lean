import LayoutBinding.Calendar.Zone
import LayoutBinding.Character.Case
import LayoutBinding.Fault
import LayoutBinding.FilePath
import LayoutBinding.Text.Trim

/-!
# Configuration

Settings given explicitly win over the environment, and the environment wins
over the defaults.  An empty text counts as no setting.
-/

namespace LayoutBinding

/-- A time zone that moments are moved to before they are written. -/
inductive TimeZone where
  | fixed (zone : Zone)
  | named (name : String) (zone : Zone)
deriving DecidableEq

def TimeZone.zone : TimeZone → Zone
  | .fixed zone => zone
  | .named _ zone => zone

structure Config where
  /-- What the addresses of pages start with. -/
  baseUrl : String
  /-- Whether the addresses of pages end with a slash. -/
  trailingSlash : Bool
  /-- The zone that moments with a zone are written in. -/
  timezone : Option TimeZone
  /-- The folder of a site's own layouts. -/
  userLayouts : Option FilePath
  /-- The folder of the layouts that are used where a site has none. -/
  defaultLayouts : Option FilePath
deriving DecidableEq

namespace Config

/-- The configuration without any setting. -/
def default : Config :=
  ⟨"/", true, none, none, none⟩

inductive ZoneSetting where
  | name (name : String)
  | offset (zone : Zone)
deriving DecidableEq

structure Settings where
  baseUrl : Option String
  trailingSlash : Option Bool
  timezone : Option ZoneSetting
  userLayouts : Option String
  defaultLayouts : Option String

/-- What the environment provides. -/
structure Environment where
  baseUrl : Option String
  /-- Whether the addresses of pages end with a slash, as a word. -/
  trailingSlash : Option String
  timezone : Option String
  userLayouts : Option String
  /-- The homes of users; the current user has the empty name. -/
  homes : List (String × String)
  zones : List (String × Zone)

/-- A setting, if it is not empty. -/
def nonEmpty (setting : Option String) : Option String :=
  setting.filter (· ≠ "")

/-- The truth value of a word. -/
def flag (word : String) : Bool :=
  ["1", "true", "yes", "on"].contains
    (String.ofList (Character.lowerAll (trimBlanks word).toList))

/-- Whether a text can be a component of a name. -/
def canName (part : String) : Bool :=
  part ≠ "" && part ≠ "." && part ≠ ".." && !part.toList.contains '\x00'

/-- The zone with a name.  A name is a relative path without components that
lead elsewhere. -/
def findZone (zones : List (String × Zone)) (name : String) : Except Fault TimeZone :=
  if ((FilePath.split name.toList).map String.ofList).any (!canName ·) then
    .error .badName
  else
    match zones.lookup name with
    | some zone => .ok (.named name zone)
    | none => .error .unknownZone

def folder? (homes : List (String × String)) (setting : Option String) :
    Except Fault (Option FilePath) :=
  match setting with
  | none => .ok none
  | some text =>
      let path := FilePath.ofString text
      match path.expandHome? homes with
      | some path => .ok (some path)
      | none =>
          .error (if path.components.head?.any (·.toList.contains '\x00') then .badName
            else .unknownHome)

/-- The zone that a setting names; without one the environment decides. -/
def zone? (settings : Settings) (environment : Environment) : Except Fault (Option TimeZone) :=
  match settings.timezone with
  | some (.offset zone) => .ok (some (.fixed zone))
  | other =>
      let given :=
        match other with
        | some (.name name) => nonEmpty (some name)
        | _ => none
      match given <|> nonEmpty environment.timezone with
      | none => .ok none
      | some name => (findZone environment.zones name).map some

def resolve (settings : Settings) (environment : Environment) : Except Fault Config := do
  let timezone ← zone? settings environment
  let userLayouts ← folder? environment.homes
    (nonEmpty settings.userLayouts <|> nonEmpty environment.userLayouts)
  let defaultLayouts ← folder? environment.homes (nonEmpty settings.defaultLayouts)
  pure
    { baseUrl := (nonEmpty settings.baseUrl <|> nonEmpty environment.baseUrl).getD "/"
      trailingSlash :=
        (settings.trailingSlash <|> (nonEmpty environment.trailingSlash).map flag).getD true
      timezone := timezone
      userLayouts := userLayouts
      defaultLayouts := defaultLayouts }

end Config

end LayoutBinding
