import LayoutBinding.Calendar.Iso
import LayoutBinding.Value.Quoted

/-!
# Pages from front matter

Front matter binds some names that every page has.  Title and author are
written out, the date is read, and tags are a sequence or a text with commas.
All other names are kept as further data.
-/

namespace LayoutBinding

namespace Page

/-- The parts of a text between commas that are not blank, without the blanks
around them. -/
def tagsInText (t : Text) : List Value :=
  (t.content.toList.splitOn ',').filterMap fun part =>
    if part.all Character.isBlank then
      none
    else
      some (.text ⟨String.ofList (trim Character.isBlank part), t.trusted⟩)

def tagsOf (value : Value) : Outcome (List Value) :=
  match value with
  | .absent => .ok []
  | .text t => .ok (tagsInText t)
  | other =>
      match other.contents? with
      | some items => items.mapM fun item => (Value.text ·) <$> item.written
      | none => .stop .wrongSort

/-- The tags of a page that is given them as a value; a tuple is kept. -/
def givenTags (value : Value) : Outcome (List Value) :=
  match value with
  | .tuple items => .ok items
  | other => tagsOf other

def momentIn (t : Text) : Outcome Value :=
  match Moment.read? (trimBlanks t.content) with
  | some m => .ok (.moment m)
  | none => .stop .noMoment

/-- The moment that a value stands for; an empty text stands for none. -/
def momentOf (value : Value) : Outcome Value :=
  match value with
  | .absent => .ok .absent
  | .moment m => .ok (.moment m)
  | .date d => .ok (.moment (.ofDate d))
  | .text t => if t.content = "" then .ok .absent else momentIn t
  | other => other.written >>= momentIn

/-- The text that a value is written as; one that counts as false has none. -/
def lineOf (value : Value) : Outcome Value :=
  if value.isTruthy then (Value.text ·) <$> value.written else .ok (.string "")

def anchorsOf (value : Value) : Outcome (List Value) :=
  if value.isTruthy then
    match value.contents? with
    | some items => .ok items
    | none => .stop .wrongSort
  else
    .ok []

/-- The names that are not kept as further data. -/
def knownNames : List String :=
  ["title", "date", "author", "layout", "tags", "anchors"]

/-- The page that front matter describes. -/
def ofFrontMatter (path : String) (fields : List (String × Value)) (source body : String)
    (children : List Page) : Outcome Page := do
  let entry (name : String) : Value := (Entries.get? fields name).getD .absent
  let title ← lineOf (entry "title")
  let day ← momentOf (entry "date")
  let author ← lineOf (entry "author")
  let tags ← tagsOf (entry "tags")
  let anchors ← anchorsOf (entry "anchors")
  pure
    { path := path
      title := title
      date := day
      author := author
      tags := tags
      layout := entry "layout"
      params := fields.filter fun field => !knownNames.contains field.1
      anchors := anchors
      source := source
      body := body
      children := children }

end Page

end LayoutBinding
