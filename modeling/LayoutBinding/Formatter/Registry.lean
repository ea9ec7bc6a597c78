import LayoutBinding.Context

/-!
# The registry of formatters

Formatters are the methods of plain values.  The registry holds one for each
type and name; registering another one for the same type and name replaces it
in its place.  The built-in formatters are put in when the registry is first
used, so that they come first and replace nothing.
-/

namespace LayoutBinding

inductive Builtin where
  /-- A moment in a reference-time layout. -/
  | format
  /-- A moment or date in ISO 8601. -/
  | iso
  | upper
  | lower
  | trim
  | length
  | first
  | last
  | reverse
  /-- No more than a number of leading items. -/
  | limit
  | join
deriving DecidableEq

/-- What a formatter does. -/
inductive Operation where
  | builtin (builtin : Builtin)
  | custom (name : String) (run : Context → Value → List Value → Outcome Value)

/-- A method of the values of one type. -/
structure Formatter where
  valueType : ValueType
  name : String
  operation : Operation
  argumentTypes : List ValueType
  description : String

/-- The formatters that are built in. -/
def Formatter.builtins : List Formatter :=
  [⟨.moment, "format", .builtin .format, [.text], "Format with a reference-time layout"⟩,
    ⟨.moment, "iso", .builtin .iso, [], "ISO-8601 representation"⟩,
    ⟨.date, "format", .builtin .format, [.text], "Format with a reference-time layout"⟩,
    ⟨.date, "iso", .builtin .iso, [], "ISO-8601 representation"⟩,
    ⟨.text, "upper", .builtin .upper, [], "Upper-case"⟩,
    ⟨.text, "lower", .builtin .lower, [], "Lower-case"⟩,
    ⟨.text, "trim", .builtin .trim, [], "Strip surrounding whitespace"⟩,
    ⟨.sequence, "len", .builtin .length, [], "Number of items"⟩,
    ⟨.sequence, "first", .builtin .first, [], "First item"⟩,
    ⟨.sequence, "last", .builtin .last, [], "Last item"⟩,
    ⟨.sequence, "reverse", .builtin .reverse, [], "Items in reverse order"⟩,
    ⟨.sequence, "limit", .builtin .limit, [.whole], "At most n leading items"⟩,
    ⟨.sequence, "join", .builtin .join, [.text], "Items joined as text"⟩]

/-- The table of formatters by type and name, in the order of registration. -/
abbrev FormatterTable :=
  List ((ValueType × String) × Formatter)

/-- A registry, whose table is empty until it is used. -/
structure Registry where
  /-- Whether the built-in formatters have been put in. -/
  loaded : Bool
  table : FormatterTable

namespace FormatterTable

/-- Put a formatter into a table. -/
def store (table : FormatterTable) (formatter : Formatter) : FormatterTable :=
  Entries.put table (formatter.valueType, formatter.name) formatter

/-- Put formatters into a table, one after the other. -/
def storeAll (table : FormatterTable) (formatters : List Formatter) : FormatterTable :=
  formatters.foldl store table

def builtins : FormatterTable :=
  storeAll [] Formatter.builtins

/-- The formatter for a value and a name: the one of the most specific type in
the lineage of the value, and else the one for sequences if the value is one
other than a text. -/
def find? (table : FormatterTable) (value : Value) (name : String) : Option Formatter :=
  match value.lineage.findSome? fun type => Entries.get? table (type, name) with
  | some formatter => some formatter
  | none =>
      if value.isOf .sequence && !value.isOf .text then
        Entries.get? table (.sequence, name)
      else
        none

/-- The formatters of one type, or all of them, in the order of registration. -/
def list (table : FormatterTable) (type : Option ValueType) : List Formatter :=
  (table.filter fun entry => type.all (· = entry.1.1)).map Prod.snd

end FormatterTable

namespace Registry

/-- The registry before its first use. -/
def fresh : Registry :=
  ⟨false, []⟩

/-- The registry with the built-in formatters put in. -/
def ensured (registry : Registry) : Registry :=
  if registry.loaded then registry else ⟨true, registry.table.storeAll Formatter.builtins⟩

/-- Register a formatter. -/
def register (registry : Registry) (formatter : Formatter) : Registry :=
  { registry.ensured with table := registry.ensured.table.store formatter }

def find? (registry : Registry) (value : Value) (name : String) : Option Formatter :=
  registry.ensured.table.find? value name

/-- The formatters of one type, or all of them, in the order of registration. -/
def list (registry : Registry) (type : Option ValueType) : List Formatter :=
  registry.ensured.table.list type

/-- The names of the formatters of a type in alphabetical order. -/
def names (registry : Registry) (type : ValueType) : List String :=
  ((registry.list (some type)).map Formatter.name).mergeSort fun first second => !(second < first)

@[simp]
theorem ensured_ensured (registry : Registry) : registry.ensured.ensured = registry.ensured := by
  cases registry with
  | mk loaded table => cases loaded <;> rfl

end Registry

namespace Formatter

def arity (formatter : Formatter) : Nat :=
  formatter.argumentTypes.length

/-- Whether a value is accepted where a type is expected: a truth value counts as
nothing else. -/
def accepts (expected : ValueType) (value : Value) : Bool :=
  value.isOf expected && !(value.isTruth && expected ≠ .truth)

/-- The first argument that is not accepted, by its number from 1. -/
def firstRefused (position : Nat) : List ValueType → List Value → Option (Nat × ValueType × Value)
  | expected :: types, value :: values =>
      if accepts expected value then
        firstRefused (position + 1) types values
      else
        some (position, expected, value)
  | _, _ => none

/-- Check the arguments of a formatter. -/
def check (formatter : Formatter) (arguments : List Value) : Outcome Unit :=
  if arguments.length ≠ formatter.arity then
    .refuse (.argumentCount formatter.name formatter.arity arguments.length)
  else
    match firstRefused 1 formatter.argumentTypes arguments with
    | some (position, expected, value) =>
        .refuse (.argumentType position formatter.name expected.name value.typeName)
    | none => .ok ()

end Formatter

end LayoutBinding
