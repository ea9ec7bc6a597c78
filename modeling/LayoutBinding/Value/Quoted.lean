import LayoutBinding.Value.Basic

/-!
# Written values

A value inside of another one is written in its quoted form, which shows its
type.  At the top a text is its own characters, dates and moments are written
in ISO 8601, and a page is its title.
-/

namespace LayoutBinding

/-- Join written items between two marks. -/
def bracketed (opening closing : String) (items : List String) : String :=
  opening ++ ", ".intercalate items ++ closing

namespace Value

mutual

def quoted : Value → String
  | .absent => "None"
  | .truth b => if b then "True" else "False"
  | .whole n => Numeral.whole n
  | .double d => d.text
  | .text t => t.quoted
  | .bytes bs => String.ofList (Quoted.encodeBytes bs)
  | .date d => d.quoted
  | .moment m => m.quoted
  | .list items => bracketed "[" "]" (quotedItems items)
  | .tuple [item] => "(" ++ item.quoted ++ ",)"
  | .tuple items => bracketed "(" ")" (quotedItems items)
  | .mapping true entries =>
      "mappingproxy(" ++ bracketed "\x7b" "\x7d" (quotedEntries entries) ++ ")"
  | .mapping false entries => bracketed "\x7b" "\x7d" (quotedEntries entries)
  | .record entries => "PlainRecord(" ++ bracketed "\x7b" "\x7d" (quotedEntries entries) ++ ")"
  | .hint name value =>
      "BlockHint(name=" ++ LayoutBinding.quoted name ++ ", value=" ++ value.quoted ++ ")"
  | .anchor id => "SectionAnchor(id=" ++ id.quoted ++ ")"
  | .function name => "<function " ++ name ++ ">"
  | .foreign typeName _ => "<" ++ typeName ++ " object>"
  | .bare => "<Resolvable object>"
  | .blocks _ => "<BlockNamespace object>"
  | .sections => "<SectionNamespace object>"
  | .links .. => "<LinkResolver object>"
  | .page p => quotedPage p
  | .loop frame => quotedFrame frame
termination_by structural value => value

def quotedItems : List Value → List String
  | [] => []
  | item :: items => item.quoted :: quotedItems items
termination_by structural items => items

def quotedEntries : List (String × Value) → List String
  | [] => []
  | (key, value) :: entries =>
      (LayoutBinding.quoted key ++ ": " ++ value.quoted) :: quotedEntries entries
termination_by structural entries => entries

def quotedPage : Page → String
  | ⟨path, title, day, author, tags, layout, params, anchors, source, body, children⟩ =>
      "Page(path=" ++ LayoutBinding.quoted path ++ ", title=" ++ title.quoted ++ ", date=" ++
        day.quoted ++ ", author=" ++ author.quoted ++ ", tags=" ++
        bracketed "(" (if tags.length = 1 then ",)" else ")") (quotedItems tags) ++
        ", layout=" ++ layout.quoted ++ ", params=mappingproxy(" ++
        bracketed "\x7b" "\x7d" (quotedEntries params) ++ "), anchors=" ++
        bracketed "(" (if anchors.length = 1 then ",)" else ")") (quotedItems anchors) ++
        ", source=" ++ LayoutBinding.quoted source ++ ", body=" ++ LayoutBinding.quoted body ++
        ", children=" ++ bracketed "[" "]" (quotedPages children) ++ ")"
termination_by structural page => page

def quotedPages : List Page → List String
  | [] => []
  | p :: pages => quotedPage p :: quotedPages pages
termination_by structural pages => pages

def quotedFrame : LoopFrame → String
  | ⟨item, index, count, parent⟩ =>
      "LoopFrame(it=" ++ item.quoted ++ ", index=" ++ Numeral.whole index ++ ", count=" ++
        Numeral.whole count ++ ", parent=" ++ quotedParent parent ++ ")"
termination_by structural frame => frame

def quotedParent : Option LoopFrame → String
  | none => "None"
  | some frame => quotedFrame frame
termination_by structural frame => frame

end

end Value

/-- The text of a page, which is its title. -/
def Page.text (page : Page) : Outcome Text :=
  match page.title with
  | .text t => .ok t
  | _ => .stop .wrongSort

namespace Value

/-- The text that a value has by itself. -/
def written : Value → Outcome Text
  | .text t => .ok (.plain t.content)
  | .date d => .ok (.plain d.iso)
  | .moment m => .ok (.plain (m.isoWith " "))
  | .mapping _ entries => .ok (.plain (quoted (.mapping false entries)))
  | .page p => p.text
  | .whole n =>
      match Numeral.limited? n with
      | some digits => .ok (.plain digits)
      | none => .stop .numberTooLong
  | value => .ok (.plain value.quoted)

end Value

end LayoutBinding
