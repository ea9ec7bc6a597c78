import LayoutBinding.Expression.Parser
import LayoutBinding.Template.Basic
import LayoutBinding.Text.Trim

/-!
# Directives

Three attributes bind an element to an expression: one repeats the element for
the items of a sequence, two replace its content.  Whatever their order in the
start tag, the loop is applied first, then the text, then the HTML.
-/

namespace LayoutBinding

/-- What an element can be bound by. -/
inductive Directive where
  /-- The element is repeated for the items of a sequence. -/
  | loop
  /-- The content is a text, which is escaped. -/
  | text
  | html
deriving DecidableEq

namespace Directive

def attributeName : Directive → String
  | .loop => ":loop"
  | .text => ":text"
  | .html => ":html"

/-- The directives in the order in which they are applied. -/
def all : List Directive :=
  [.loop, .text, .html]

def ofName? (name : String) : Option Directive :=
  all.find? fun directive => directive.attributeName = name

def setsContent : Directive → Bool
  | .loop => false
  | .text => true
  | .html => true

end Directive

structure Binding where
  directive : Directive
  expression : Expression

namespace Element

/-- The binding that an attribute with a directive makes. -/
def binding (names : List String) (e : Element) (directive : Directive)
    (value : Option String) : Except Error Binding :=
  let written := value.getD ""
  let excerpt (shown : String) : String := directive.attributeName ++ "=\"" ++ shown ++ "\""
  let refuse (cause : Cause) (source : String) : Except Error Binding :=
    .error ((Error.of cause).annotate (some source) (some e.location))
  if directive.setsContent && e.isVoid then
    refuse (.voidContent directive.attributeName e.name) (excerpt written)
  else if isBlankText written then
    refuse (.missingExpression directive.attributeName) (excerpt "")
  else
    match Expression.parse names written with
    | .ok expression => .ok ⟨directive, expression⟩
    | .error failure => .error (failure.withLocation e.location)

/-- The bindings of an element in the order of its attributes. -/
def writtenBindings (names : List String) (e : Element) : Except Error (List Binding) :=
  (e.start.attributes.filterMap fun a =>
    (Directive.ofName? a.name).map fun directive => (directive, a.value)).mapM
      fun (directive, value) => e.binding names directive value

/-- The bindings of an element in the order in which they are applied; bindings
of one directive keep the order of their attributes. -/
def bindings (names : List String) (e : Element) : Except Error (List Binding) :=
  (e.writtenBindings names).map fun written =>
    Directive.all.flatMap fun directive => written.filter (·.directive = directive)

end Element

end LayoutBinding
