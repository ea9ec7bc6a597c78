import LayoutBinding.Text.Quoted
import LayoutBinding.Number.Numeral

/-!
# Errors

An error has a cause, and once it has been annotated the source text of the
expression that failed and the place in the template.  The first annotation of
each sort stays, so an error names what is closest to the failure.
-/

namespace LayoutBinding

inductive EvalKind where
  | unknownNamespace
  | noLoop
  | unknownField
  /-- A value has no such method, or not with this number of arguments. -/
  | unknownMethod
  | badArgument
  | badValue
deriving DecidableEq

inductive ErrorKind where
  /-- An error of no special sort. -/
  | general
  | parse
  | evaluation (kind : EvalKind)
  /-- A reference to a page or an anchor that does not exist. -/
  | link
deriving DecidableEq

/-- The name of a kind of evaluation error in messages. -/
def EvalKind.tag : EvalKind → String
  | .unknownNamespace => "unknown_namespace"
  | .noLoop => "no_loop"
  | .unknownField => "unknown_field"
  | .unknownMethod => "unknown_method"
  | .badArgument => "bad_argument"
  | .badValue => "bad_value"

/-- The name of the kind of an error in messages, for the sorts that have one. -/
def ErrorKind.tag? : ErrorKind → Option String
  | .general => none
  | .parse => none
  | .evaluation kind => some kind.tag
  | .link => some "not_found"

/-- What makes a text no expression. -/
inductive SyntaxFault where
  | noDollar
  | noNamespace
  /-- No name follows a point. -/
  | emptySegment
  /-- The text ends between two arguments. -/
  | unterminatedCall (name : String)
  /-- An argument is followed by neither a comma nor the closing bracket. -/
  | afterArgument (found : Char) (name : String)
  | missingArgument
  /-- A name that is no expression stands as an argument. -/
  | bareWord (word : String)
  /-- The closing bracket stands where an argument is expected. -/
  | emptyArgument
  | unexpectedArgument (found : Char)
  | unbalancedQuotes
  | malformedNumber (written : String)
  /-- A character after the end of the expression. -/
  | trailing (found : Char)
deriving DecidableEq

def SyntaxFault.message : SyntaxFault → String
  | .noDollar => "expression must start with '$'"
  | .noNamespace => "missing namespace after '$'"
  | .emptySegment => "empty path segment"
  | .unterminatedCall name => "unterminated call to " ++ name ++ "()"
  | .afterArgument found name =>
      "unexpected " ++ quoted (String.singleton found) ++ " in arguments of " ++ name ++ "()"
  | .missingArgument => "unterminated call"
  | .bareWord word => "bare word " ++ quoted word ++ " is not a valid argument"
  | .emptyArgument => "empty argument"
  | .unexpectedArgument found =>
      "unexpected " ++ quoted (String.singleton found) ++ " in arguments"
  | .unbalancedQuotes => "unbalanced quotes"
  | .malformedNumber written => "malformed number " ++ quoted written
  | .trailing found =>
      "unexpected " ++ quoted (String.singleton found) ++ " after expression"

inductive Cause where
  /-- A text is no expression; the offset counts characters. -/
  | malformed (fault : SyntaxFault) (offset : Nat)
  | undeclared (name : String) (declared : List String)
  /-- A directive sets the content of an element that has none. -/
  | voidContent (directive tag : String)
  | missingExpression (directive : String)
  | unbound (name : String)
  | outsideLoop
  | noField (owner name : String)
  | noMethod (owner name : String) (arguments : Nat)
  /-- A formatter takes another number of arguments. -/
  | argumentCount (formatter : String) (expected given : Nat)
  /-- An argument of a formatter, counted from 1, is of the wrong type. -/
  | argumentType (position : Nat) (formatter expected given : String)
  /-- The argument of a namespace method is of the wrong type. -/
  | hintType (owner name expected given : String)
  | blankAnchor
  | negativeLimit (given : Int)
  | emptySequence (method : String)
  /-- A value has no text; moments need a layout. -/
  | noText (label : String) (isTimestamp : Bool)
  | noSequence (label : String)
  | linkTarget (method given : String)
  | noPage (id : Text)
  /-- The page has no such anchor, which is given in its quoted form. -/
  | noAnchor (page : Text) (anchor : String)
  /-- There is no current page that could have the anchor, which is given in its
  quoted form. -/
  | noCurrentPage (anchor : String)
  | noLayout (path : String)
  /-- A cause given by its message. -/
  | stated (kind : ErrorKind) (message : String)
deriving DecidableEq

namespace Cause

/-- The sort of errors that the cause gives rise to. -/
def kind : Cause → ErrorKind
  | .malformed .. => .parse
  | .undeclared .. => .parse
  | .voidContent .. => .parse
  | .missingExpression .. => .parse
  | .unbound .. => .evaluation .unknownNamespace
  | .outsideLoop => .evaluation .noLoop
  | .noField .. => .evaluation .unknownField
  | .noMethod .. => .evaluation .unknownMethod
  | .argumentCount .. => .evaluation .unknownMethod
  | .argumentType .. => .evaluation .badArgument
  | .hintType .. => .evaluation .badArgument
  | .blankAnchor => .evaluation .badArgument
  | .negativeLimit .. => .evaluation .badArgument
  | .emptySequence .. => .evaluation .badValue
  | .noText .. => .evaluation .badValue
  | .noSequence .. => .evaluation .badValue
  | .linkTarget .. => .evaluation .badArgument
  | .noPage .. => .link
  | .noAnchor .. => .link
  | .noCurrentPage .. => .link
  | .noLayout .. => .general
  | .stated kind _ => kind

def quotedList (names : List String) : String :=
  "[" ++ ", ".intercalate (names.map quoted) ++ "]"

def message : Cause → String
  | .malformed fault offset =>
      fault.message ++ " (offset " ++ Numeral.natural offset ++ ")"
  | .undeclared name declared =>
      "unknown namespace $" ++ name ++ "; expected one of " ++ quotedList declared
  | .voidContent directive tag =>
      directive ++ " cannot set the content of void element <" ++ tag ++ ">"
  | .missingExpression directive => directive ++ " needs an expression"
  | .unbound name => "namespace " ++ quoted name ++ " is not bound in this context"
  | .outsideLoop => "$loop used outside of a :loop"
  | .noField owner name => owner ++ " has no field " ++ quoted name
  | .noMethod owner name arguments =>
      owner ++ " has no method " ++ quoted name ++ " taking " ++
        Numeral.natural arguments ++ " argument(s)"
  | .argumentCount formatter expected given =>
      formatter ++ "() takes " ++ Numeral.natural expected ++ " argument(s), got " ++
        Numeral.natural given
  | .argumentType position formatter expected given =>
      "argument " ++ Numeral.natural position ++ " of " ++ formatter ++ "() must be " ++
        expected ++ ", got " ++ given
  | .hintType owner name expected given =>
      "$" ++ owner ++ "." ++ name ++ "() needs a " ++ expected ++ ", got " ++ given
  | .blankAnchor => "$section.id() needs a non-empty id"
  | .negativeLimit given => "limit() needs n >= 0, got " ++ Numeral.whole given
  | .emptySequence method => method ++ "() of an empty sequence"
  | .noText label isTimestamp =>
      "cannot render a " ++ label ++ " as text" ++
        if isTimestamp then " (use .format(layout) or .iso())" else ""
  | .noSequence label => ":loop needs a sequence, got " ++ label
  | .linkTarget method given =>
      "$link." ++ method ++ "() needs a string id, got " ++ given
  | .noPage id => "no page with id " ++ id.quoted
  | .noAnchor page anchor =>
      "page " ++ (if page.content = "" then quoted "/" else page.quoted) ++
        " has no anchor " ++ anchor
  | .noCurrentPage anchor =>
      "anchor " ++ anchor ++ " has no current page to resolve against"
  | .noLayout path => "page " ++ quoted path ++ " has no layout"
  | .stated _ message => message

end Cause

/-- A cause with what is known about where it arose. -/
structure Error where
  cause : Cause
  /-- The source text of the expression that failed. -/
  source : Option String
  location : Option String
deriving DecidableEq

namespace Error

/-- An error without annotations. -/
def of (cause : Cause) : Error :=
  ⟨cause, none, none⟩

def annotate (e : Error) (source location : Option String) : Error :=
  { e with source := e.source <|> source, location := e.location <|> location }

/-- Annotate the error with the source text of an expression. -/
def withSource (e : Error) (source : String) : Error :=
  e.annotate (some source) none

def withLocation (e : Error) (location : String) : Error :=
  e.annotate none (some location)

def kind (e : Error) : ErrorKind :=
  e.cause.kind

/-- The message with the kind and the annotations. -/
def text (e : Error) : String :=
  (match e.kind.tag? with
    | some tag => "[" ++ tag ++ "] "
    | none => "") ++ e.cause.message ++
    (match e.source with
      | some source => " in expression " ++ quoted source
      | none => "") ++
    match e.location with
    | some location => " at " ++ location
    | none => ""

@[simp]
theorem annotate_none (e : Error) : e.annotate none none = e := by
  simp [annotate]

theorem annotate_annotate (e : Error) (s₁ l₁ s₂ l₂ : Option String) :
    (e.annotate s₁ l₁).annotate s₂ l₂ = e.annotate (s₁ <|> s₂) (l₁ <|> l₂) := by
  simp [annotate, Option.or_assoc]

end Error

end LayoutBinding
