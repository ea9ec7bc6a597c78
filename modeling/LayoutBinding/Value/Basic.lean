import LayoutBinding.Calendar.Moment
import LayoutBinding.Entries
import LayoutBinding.Fault
import LayoutBinding.Number.Shortest

/-!
# Values

The values that expressions navigate: plain data, records, pages and loop
frames, and the namespaces with methods of their own.
-/

namespace LayoutBinding

/-- The types that formatters are registered for and that arguments are checked
against. -/
inductive ValueType where
  | text
  /-- Whole numbers, truth values among them. -/
  | whole
  | double
  | truth
  | moment
  /-- Dates, moments among them. -/
  | date
  | list
  | tuple
  /-- Mappings that can be changed. -/
  | dict
  /-- Texts, lists, tuples and byte strings. -/
  | sequence
  | any
  | bytes
  | markup
  | mapping
  | absent
  | named (name : String)
deriving DecidableEq

mutual

inductive Value where
  | absent
  | truth (b : Bool)
  | whole (n : Int)
  | double (d : Double)
  | text (t : Text)
  | bytes (bs : List UInt8)
  | date (d : Date)
  | moment (m : Moment)
  | list (items : List Value)
  | tuple (items : List Value)
  /-- A mapping, which may be read-only. -/
  | mapping (readOnly : Bool) (entries : List (String × Value))
  /-- A record: a mapping whose keys are its fields. -/
  | record (entries : List (String × Value))
  | function (name : String)
  /-- A value of a type from elsewhere, which may know its HTML. -/
  | foreign (typeName : String) (html : Option String)
  /-- A value without any fields or methods. -/
  | bare
  | hint (name : String) (value : Value)
  | anchor (id : Value)
  /-- The namespace of block hints, with the type of each hint. -/
  | blocks (hints : List (String × ValueType))
  | sections
  /-- The namespace of links, as seen from the current page if there is one. -/
  | links (index : LinkIndex) (current : Option Page)
  | page (page : Page)
  | loop (frame : LoopFrame)

/-- A document. -/
structure Page where
  /-- The path, which is also the page's identifier. -/
  path : String
  title : Value
  /-- The moment of publication. -/
  date : Value
  author : Value
  tags : List Value
  layout : Value
  /-- Further data of the page. -/
  params : List (String × Value)
  anchors : List Value
  source : String
  body : String
  children : List Page

/-- The addresses and the anchors of pages. -/
structure LinkIndex where
  urls : List (String × String)
  /-- The anchors of each page, which are texts unless front matter states
  others. -/
  anchors : List (String × List Value)

/-- One turn of a loop. -/
structure LoopFrame where
  item : Value
  /-- The number of the turn, from 0. -/
  index : Int
  count : Int
  /-- The frame of the loop around this one. -/
  parent : Option LoopFrame

end

instance : Inhabited Value :=
  ⟨.absent⟩

namespace ValueType

def name : ValueType → String
  | .text => "str"
  | .whole => "int"
  | .double => "float"
  | .truth => "bool"
  | .moment => "datetime"
  | .date => "date"
  | .list => "list"
  | .tuple => "tuple"
  | .dict => "dict"
  | .sequence => "Sequence"
  | .any => "object"
  | .bytes => "bytes"
  | .markup => "Markup"
  | .mapping => "Mapping"
  | .absent => "NoneType"
  | .named name => name

/-- The types of plain data. -/
def all : List ValueType :=
  [.text, .whole, .double, .truth, .moment, .date, .list, .tuple, .dict, .sequence, .any,
    .bytes, .markup, .mapping, .absent]

end ValueType

namespace Value

def string (s : String) : Value :=
  .text (.plain s)

def html (s : String) : Value :=
  .text (.markup s)

def typeName : Value → String
  | .absent => "NoneType"
  | .truth _ => "bool"
  | .whole _ => "int"
  | .double _ => "float"
  | .text t => if t.trusted then "Markup" else "str"
  | .bytes _ => "bytes"
  | .date _ => "date"
  | .moment _ => "datetime"
  | .list _ => "list"
  | .tuple _ => "tuple"
  | .mapping readOnly _ => if readOnly then "mappingproxy" else "dict"
  | .record _ => "PlainRecord"
  | .function _ => "function"
  | .foreign typeName _ => typeName
  | .bare => "Resolvable"
  | .hint .. => "BlockHint"
  | .anchor _ => "SectionAnchor"
  | .blocks _ => "BlockNamespace"
  | .sections => "SectionNamespace"
  | .links .. => "LinkResolver"
  | .page _ => "Page"
  | .loop _ => "LoopFrame"

/-- What messages for authors call a value. -/
def label : Value → String
  | .absent => "none"
  | .truth _ => "boolean"
  | .whole _ => "number"
  | .double _ => "number"
  | .text _ => "string"
  | .bytes _ => "sequence"
  | .date _ => "timestamp"
  | .moment _ => "timestamp"
  | .list _ => "sequence"
  | .tuple _ => "sequence"
  | .mapping .. => "record"
  | .record _ => "record"
  | .function _ => "function"
  | .foreign typeName _ => typeName
  | .bare => "value"
  | .hint .. => "block_hint"
  | .anchor _ => "section_anchor"
  | .blocks _ => "block"
  | .sections => "section"
  | .links .. => "link"
  | .page _ => "page"
  | .loop _ => "loop"

/-- The types of a value that formatters are looked up for, the most specific
one first. -/
def lineage : Value → List ValueType
  | .absent => [.absent, .any]
  | .truth _ => [.truth, .whole, .any]
  | .whole _ => [.whole, .any]
  | .double _ => [.double, .any]
  | .text t => if t.trusted then [.markup, .text, .any] else [.text, .any]
  | .bytes _ => [.bytes, .any]
  | .date _ => [.date, .any]
  | .moment _ => [.moment, .date, .any]
  | .list _ => [.list, .any]
  | .tuple _ => [.tuple, .any]
  | .mapping readOnly _ => if readOnly then [.named "mappingproxy", .any] else [.dict, .any]
  | .function _ => [.named "function", .any]
  | .foreign typeName _ => [.named typeName, .any]
  | .bare => [.named "Resolvable", .any]
  | value => [.named value.typeName, .named "Resolvable", .any]

def isOf (value : Value) (type : ValueType) : Bool :=
  value.lineage.contains type ||
    match value, type with
    | .text _, .sequence => true
    | .bytes _, .sequence => true
    | .list _, .sequence => true
    | .tuple _, .sequence => true
    | .mapping .., .mapping => true
    | _, _ => false

theorem isOf_of_mem_lineage {value : Value} {type : ValueType} (among : type ∈ value.lineage) :
    value.isOf type = true := by
  unfold isOf
  rw [List.contains_iff_mem.mpr among, Bool.true_or]

theorem sequence_notMem_lineage (value : Value) : .sequence ∉ value.lineage := by
  cases value with
  | text t =>
      obtain ⟨content, trusted⟩ := t
      cases trusted <;> simp [lineage]
  | mapping readOnly entries => cases readOnly <;> simp [lineage]
  | _ => simp [lineage]

def isTruth : Value → Bool
  | .truth _ => true
  | _ => false

/-- The items of a sequence for loops and sequence fields: texts and byte strings
are none. -/
def items? : Value → Option (List Value)
  | .list items => some items
  | .tuple items => some items
  | _ => none

def ofByte (b : UInt8) : Value :=
  .whole b.toNat

def ofChar (c : Char) : Value :=
  .string (String.singleton c)

/-- What going through a value gives. -/
def contents? : Value → Option (List Value)
  | .list items => some items
  | .tuple items => some items
  | .text t => some (t.content.toList.map ofChar)
  | .bytes bs => some (bs.map ofByte)
  | .mapping _ entries => some (entries.map fun entry => .string entry.1)
  | _ => none

/-- Whether a value counts as true where a truth value is needed. -/
def isTruthy : Value → Bool
  | .absent => false
  | .truth b => b
  | .whole n => n ≠ 0
  | .double d => !d.isZero
  | .text t => t.content ≠ ""
  | .bytes bs => !bs.isEmpty
  | .list items => !items.isEmpty
  | .tuple items => !items.isEmpty
  | .mapping _ entries => !entries.isEmpty
  | _ => true

end Value

end LayoutBinding
