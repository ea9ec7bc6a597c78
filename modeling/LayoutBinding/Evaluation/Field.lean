import LayoutBinding.Evaluation.Toolbox

/-!
# Fields

The fields of a record are its keys.  A page has fixed fields before its
further data; dates, sequences, loop frames, hints and anchors have fixed
fields only.
-/

namespace LayoutBinding

def Page.field? (page : Page) (name : String) : Option Value :=
  match name with
  | "title" => some page.title
  | "date" => some page.date
  | "author" => some page.author
  | "tags" => some (.tuple page.tags)
  | "layout" => some page.layout
  | "path" => some (.string page.path)
  | "params" => some (.mapping true page.params)
  | _ => Entries.get? page.params name

def LoopFrame.field? (frame : LoopFrame) (name : String) : Option Value :=
  match name with
  | "it" => some frame.item
  | "index" => some (.whole frame.index)
  | "first" => some (.truth (frame.index = 0))
  | "last" => some (.truth (frame.index = frame.count - 1))
  | "parent" => frame.parent.map .loop
  | _ => none

def Date.field? (d : Date) (name : String) : Option Value :=
  match name with
  | "year" => some (.whole d.year)
  | "month" => some (.whole d.month)
  | "day" => some (.whole d.day)
  | _ => none

def Moment.field? (m : Moment) (name : String) : Option Value :=
  match name with
  | "hour" => some (.whole m.time.hour)
  | "minute" => some (.whole m.time.minute)
  | "second" => some (.whole m.time.second)
  | _ => m.date.field? name

namespace Value

/-- A field whose value is part of its owner. -/
def ownField? (value : Value) (name : String) : Option Value :=
  match value with
  | .mapping _ entries => Entries.get? entries name
  | .record entries => Entries.get? entries name
  | .page p => p.field? name
  | .loop frame => frame.field? name
  | .date d => d.field? name
  | .moment m => m.field? name
  | .hint hintName content =>
      match name with
      | "name" => some (.string hintName)
      | "value" => some content
      | _ => none
  | .anchor id => if name = "id" then some id else none
  | _ => none

/-- A field of a sequence; the first and the last item come from the registry. -/
def itemField (tools : Toolbox) (context : Context) (value : Value) (items : List Value)
    (name : String) : Outcome Value :=
  if name = "len" then
    .ok (.whole items.length)
  else if name = "first" ∨ name = "last" then
    match tools.formatters.find? value name with
    | some formatter => formatter.apply context value []
    | none => .refuse (.noField value.label name)
  else
    .refuse (.noField value.label name)

def field (tools : Toolbox) (context : Context) (value : Value) (name : String) :
    Outcome Value :=
  match value.ownField? name with
  | some found => .ok found
  | none =>
      match value.items? with
      | some items => itemField tools context value items name
      | none => .refuse (.noField value.label name)

end Value

end LayoutBinding
