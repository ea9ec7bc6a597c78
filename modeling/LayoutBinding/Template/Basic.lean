import LayoutBinding.Number.Numeral

/-!
# Templates

A template is a tree of elements and raw text between them.  An element keeps
its start tag as it was written, so that a part of the template that binds
nothing is copied unchanged.
-/

namespace LayoutBinding

structure Attribute where
  /-- The name in lower case. -/
  name : String
  value : Option String
deriving DecidableEq

/-- A place in a template, lines counted from 1 and columns from 0. -/
structure Place where
  line : Nat
  /-- The number of characters before it on its line. -/
  column : Nat
deriving DecidableEq

namespace Place

def start : Place :=
  ⟨1, 0⟩

def next (place : Place) (c : Char) : Place :=
  if c = '\n' then ⟨place.line + 1, 0⟩ else ⟨place.line, place.column + 1⟩

def advance (place : Place) (cs : List Char) : Place :=
  cs.foldl next place

theorem advance_append (place : Place) (first second : List Char) :
    place.advance (first ++ second) = (place.advance first).advance second := by
  simp [advance]

end Place

/-- A start tag as it was read. -/
structure StartTag where
  /-- The name in lower case. -/
  name : String
  attributes : List Attribute
  /-- The tag as it was written. -/
  raw : String
  writtenName : String
  /-- The names of the attributes as they were written. -/
  writtenAttributes : List String
  selfClosing : Bool
deriving DecidableEq

/-- A piece of a template. -/
inductive Event where
  | startTag (tag : StartTag) (place : Place)
  /-- An end tag with a name in lower case. -/
  | endTag (name : String)
  | data (text : String)
  | nameReference (name : String)
  | numberReference (digits : String)
  | comment (text : String)
  | declaration (text : String)
  | instruction (text : String)
  | section (text : String)
deriving DecidableEq

/-- The text of an event that is neither a start tag nor an end tag. -/
def Event.rawText? : Event → Option String
  | .startTag .. => none
  | .endTag _ => none
  | .data text => some text
  | .nameReference name => some ("&" ++ name ++ ";")
  | .numberReference digits => some ("&#" ++ digits ++ ";")
  | .comment text => some ("<!--" ++ text ++ "-->")
  | .declaration text => some ("<!" ++ text ++ ">")
  | .instruction text => some ("<?" ++ text ++ ">")
  | .section text => some ("<![" ++ text ++ "]>")

mutual

inductive Node where
  | raw (text : String)
  | element (element : Element)

structure Element where
  start : StartTag
  place : Place
  children : List Node
  closed : Bool

end

/-- The names of elements without content. -/
def voidNames : List String :=
  ["area", "base", "br", "col", "embed", "hr", "img", "input", "link", "meta", "param",
    "source", "track", "wbr"]

def isVoidName (name : String) : Bool :=
  voidNames.contains name

namespace Element

/-- The name of the element in lower case. -/
def name (e : Element) : String :=
  e.start.name

def isVoid (e : Element) : Bool :=
  isVoidName e.start.name

/-- The number of the column, from 1. -/
def column (e : Element) : Nat :=
  e.place.column + 1

/-- The place of the element as errors name it. -/
def location (e : Element) : String :=
  "<" ++ e.start.name ++ "> at line " ++ Numeral.natural e.place.line ++ ", column " ++
    Numeral.natural e.column

def get? (e : Element) (name : String) : Option String :=
  (e.start.attributes.find? fun a => a.name = name).bind Attribute.value

end Element

mutual

/-- The elements of a node, each before those inside it. -/
def Node.elements : Node → List Element
  | .raw _ => []
  | .element ⟨start, place, children, closed⟩ =>
      ⟨start, place, children, closed⟩ :: Node.elementsOfAll children
termination_by structural node => node

def Node.elementsOfAll : List Node → List Element
  | [] => []
  | node :: nodes => node.elements ++ Node.elementsOfAll nodes
termination_by structural nodes => nodes

end

structure Template where
  nodes : List Node
  name : Option String

/-- The elements of a template in document order. -/
def Template.elements (template : Template) : List Element :=
  Node.elementsOfAll template.nodes

end LayoutBinding
