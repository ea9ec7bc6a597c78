import LayoutBinding.Number.Double
import LayoutBinding.Character.Digit

/-!
# Expressions

An expression is a chain of steps from a namespace, such as
`$page.date.format("2006")`.  Arguments of a call are literals or expressions.
-/

namespace LayoutBinding

inductive Literal where
  | text (content : String)
  | whole (value : Int)
  | double (value : Double)
  | truth (value : Bool)
deriving DecidableEq

mutual

/-- A chain of steps from a namespace. -/
structure Expression where
  /-- The text that the expression was read from. -/
  source : String
  /-- The namespace that the chain starts from. -/
  root : String
  steps : List Step

inductive Step where
  | field (name : String)
  | call (name : String) (arguments : List Argument)

inductive Argument where
  | literal (value : Literal)
  /-- The value of an expression. -/
  | nested (expression : Expression)

end

instance : Inhabited Expression :=
  ⟨⟨"", "", []⟩⟩

namespace Expression

/-- The namespaces that every expression may use. -/
def defaultNamespaces : List String :=
  ["page", "loop", "link", "block", "section"]

def startsName (c : Char) : Bool :=
  Character.isLetter c || c = '_'

def continuesName (c : Char) : Bool :=
  Character.isAlphanumeric c || c = '_'

def nameStarts : List Char → Bool
  | [] => false
  | c :: _ => startsName c

theorem continuesName_of_startsName {c : Char} (starts : startsName c = true) :
    continuesName c = true := by
  simp only [startsName, Bool.or_eq_true] at starts
  rcases starts with letter | underscore
  · simp [continuesName, Character.isAlphanumeric_of_isLetter letter]
  · simp [continuesName, underscore]

end Expression

end LayoutBinding
