import LayoutBinding.Expression.Reader

/-!
# Expressions in texts

A whole text is an expression, blanks around it aside, or an expression stands
at a place of a longer text.  Both are the same reading of a chain; the first
also asks that nothing is left.
-/

namespace LayoutBinding

namespace Expression

/-- The namespaces that may be used when `extra` ones are declared. -/
def declaredWith (extra : List String) : List String :=
  defaultNamespaces ++ extra

/-- Names in order, each of them once. -/
def sortedNames (names : List String) : List String :=
  names.eraseDups.mergeSort fun first second => !(second < first)

def ReadFault.cause (declared : List String) (before : Nat) (input : List Char) :
    ReadFault → Cause
  | .syntactic fault left => .malformed fault (before + (input.length - left))
  | .undeclared name => .undeclared name (sortedNames declared)

/-- The cause that keeps the rest of a text from being empty. -/
def trailingCause? (input rest : List Char) : Option Cause :=
  match rest with
  | '.' :: afterPoint => some (.malformed .emptySegment (input.length - afterPoint.length))
  | rest =>
      match rest.dropWhile Character.isBlank with
      | [] => none
      | c :: more => some (.malformed (.trailing c) (input.length - (more.length + 1)))

/-- Read a whole text, without blanks around it, as an expression. -/
def parseChars (declared : List String) (input : List Char) : Except Cause Expression :=
  match readChain declared input with
  | .error fault => .error (fault.cause declared 0 input)
  | .ok (expression, rest) =>
      match trailingCause? input rest.1 with
      | some cause => .error cause
      | none => .ok expression

def parse (extra : List String) (text : String) : Except Error Expression :=
  let input := trim Character.isBlank text.toList
  match parseChars (declaredWith extra) input with
  | .ok expression => .ok expression
  | .error cause => .error ((Error.of cause).withSource (String.ofList input))

/-- The start of a text as errors show it: no more than one line and sixty
characters. -/
def excerpt (input : List Char) : String :=
  String.ofList ((input.takeWhile (· ≠ '\n')).take 60)

/-- Read the expression at the start of the input, which has `before` characters
before it, and return what follows it. -/
def parseFront (declared : List String) (before : Nat) (input : List Char) :
    Except Error (Expression × Shorter input) :=
  match readChain declared input with
  | .ok found => .ok found
  | .error fault =>
      .error ((Error.of (fault.cause declared before input)).withSource (excerpt input))

/-- Read the expression at a place of a text and return the place after it. -/
def parseAt (extra : List String) (text : String) (start : Nat) :
    Except Error (Expression × Nat) :=
  match parseFront (declaredWith extra) start (text.toList.drop start) with
  | .ok (expression, rest) => .ok (expression, text.length - rest.1.length)
  | .error error => .error error

end Expression

end LayoutBinding
