import LayoutBinding.Evaluation.Toolbox
import LayoutBinding.Link.Resolver

/-!
# Methods

Pages and the namespaces of links, block hints and section anchors have methods
of their own.  A call without arguments on a key of a record gives what the
record holds.  The methods of all other values are formatters.
-/

namespace LayoutBinding

namespace Value

/-- The only argument of a namespace method, which has to be of a type. -/
def soleArgument (owner name : String) (expected : ValueType) (arguments : List Value) :
    Outcome Value :=
  match arguments with
  | [value] =>
      if Formatter.accepts expected value then
        .ok value
      else
        .refuse (.hintType owner name expected.name value.typeName)
  | _ => .refuse (.noMethod owner name arguments.length)

/-- Call a key of a record.  A function is called with the arguments; another
value takes none. -/
def callEntry (tools : Toolbox) (entries : List (String × Value)) (name : String)
    (arguments : List Value) : Outcome Value :=
  match Entries.get? entries name with
  | none => .refuse (.noMethod "record" name arguments.length)
  | some (.function callee) => do
      match ← tools.functions callee arguments with
      | some result => pure result
      | none => .refuse (.noMethod "record" name arguments.length)
  | some value =>
      if arguments.isEmpty then
        .ok value
      else
        .refuse (.noMethod "record" name arguments.length)

/-- The address of a page in the link namespace of the context. -/
def pageLink (context : Context) (path : String) : Outcome Value := do
  match ← context.lookup "link" with
  | .links index _ =>
      let url ← index.pageUrl (.plain path)
      pure (.string url)
  | _ => .stop .missingMember

def callPage (context : Context) (p : Page) (name : String) (arguments : List Value) :
    Outcome Value :=
  match arguments, name with
  | [], "content" => .ok (.html p.body)
  | [], "subpages" => .ok (.tuple (p.children.map .page))
  | [], "link" => pageLink context p.path
  | _, _ => .refuse (.noMethod "page" name arguments.length)

def callLinks (index : LinkIndex) (current : Option Page) (name : String)
    (arguments : List Value) : Outcome Value :=
  match arguments with
  | [target] =>
      if name = "page" ∨ name = "ref" then
        match target with
        | .text reference => do
            let url ←
              if name = "page" then
                index.pageUrl reference
              else
                index.referenceUrl (current.map Page.path) reference
            pure (.string url)
        | other => .refuse (.linkTarget name other.typeName)
      else
        .refuse (.noMethod "link" name 1)
  | _ => .refuse (.noMethod "link" name arguments.length)

def callBlocks (hints : List (String × ValueType)) (name : String) (arguments : List Value) :
    Outcome Value :=
  match Entries.get? hints name with
  | none => .refuse (.noMethod "block" name arguments.length)
  | some expected => do
      let value ← soleArgument "block" name expected arguments
      pure (.hint name value)

def callSections (name : String) (arguments : List Value) : Outcome Value :=
  if name = "id" then do
    match ← soleArgument "section" name .text arguments with
    | .text id =>
        if isBlankText id.content then .refuse .blankAnchor else pure (.anchor (.text id))
    | _ => .refuse (.noMethod "section" name arguments.length)
  else
    .refuse (.noMethod "section" name arguments.length)

def callFormatter (tools : Toolbox) (context : Context) (value : Value) (name : String)
    (arguments : List Value) : Outcome Value :=
  match tools.formatters.find? value name with
  | some formatter => formatter.apply context value arguments
  | none => .refuse (.noMethod value.label name arguments.length)

def call (tools : Toolbox) (context : Context) (value : Value) (name : String)
    (arguments : List Value) : Outcome Value :=
  match value with
  | .mapping _ entries => callEntry tools entries name arguments
  | .record entries => callEntry tools entries name arguments
  | .page p => callPage context p name arguments
  | .links index current => callLinks index current name arguments
  | .blocks hints => callBlocks hints name arguments
  | .sections => callSections name arguments
  | .absent | .bare | .hint .. | .anchor _ | .loop _ =>
      .refuse (.noMethod value.label name arguments.length)
  | plain => callFormatter tools context plain name arguments

end Value

end LayoutBinding
