import LayoutBinding.Character.Blank
import LayoutBinding.Character.Case
import LayoutBinding.Text.Reference
import LayoutBinding.Template.Basic

/-!
# Start tags

A start tag is a name, attributes separated by blanks and slashes, and a closing
angle bracket with or without a slash before it.  A value is quoted or ends at a
blank or the bracket; a quote that is not closed is no value.
-/

namespace LayoutBinding

namespace StartTag

def continuesName (c : Char) : Bool :=
  !(c = '\t' || c = '\n' || c = '\r' || c = '\x0c' || c = ' ' || c = '/' || c = '>' ||
    c = '\x00')

def startsAttribute (c : Char) : Bool :=
  !(Character.isBlank c || c = '/' || c = '>')

def continuesAttribute (c : Char) : Bool :=
  startsAttribute c && c ≠ '='

def continuesBare (c : Char) : Bool :=
  !(Character.isBlank c || c = '>')

def isQuote (c : Char) : Bool :=
  c = '"' || c = '\''

/-- A value with its quotes, or without, and what follows it. -/
structure Value where
  /-- The value between its quotes. -/
  text : List Char
  rest : List Char

/-- The value without quotes at the start of the text. -/
def bare (cs : List Char) : Value :=
  ⟨cs.takeWhile continuesBare, cs.dropWhile continuesBare⟩

/-- The value after the name of an attribute.  Where a quote is not closed, the
value is empty if a blank precedes the quote, and else starts at the last of
several equals signs. -/
def value? (cs : List Char) : Option Value :=
  let fromEquals := cs.dropWhile Character.isBlank
  let equals := fromEquals.takeWhile (· = '=')
  let afterEquals := fromEquals.dropWhile (· = '=')
  let blanks := afterEquals.takeWhile Character.isBlank
  if equals = [] then
    none
  else
    match afterEquals.dropWhile Character.isBlank with
    | [] => some ⟨[], []⟩
    | c :: inside =>
        if isQuote c then
          match inside.dropWhile (· ≠ c) with
          | _ :: rest => some ⟨inside.takeWhile (· ≠ c), rest⟩
          | [] =>
              if blanks ≠ [] then
                some ⟨[], afterEquals.drop (blanks.length - 1)⟩
              else if 2 ≤ equals.length then
                some (bare ('=' :: c :: inside))
              else
                none
        else
          some (bare (c :: inside))

/-- Skip blanks and the slashes that do not end the tag. -/
def skipSeparators : List Char → List Char
  | [] => []
  | [c] => if Character.isBlank c || c = '/' then [] else [c]
  | c :: d :: cs =>
      if Character.isBlank c || (c = '/' && d ≠ '>') then skipSeparators (d :: cs) else c :: d :: cs

/-- An attribute as it was written, and what follows it. -/
structure Written where
  name : List Char
  value : Option (List Char)
  rest : List Char

/-- The attribute at the start of the text. -/
def attribute? : List Char → Option Written
  | [] => none
  | c :: cs =>
      if startsAttribute c then
        let name := c :: cs.takeWhile continuesAttribute
        let after := cs.dropWhile continuesAttribute
        match value? after with
        | some value => some ⟨name, some value.text, value.rest⟩
        | none => some ⟨name, none, after⟩
      else
        none

/-- Whether an attribute can follow the character. -/
def separates (c : Char) : Bool :=
  isQuote c || Character.isBlank c || c = '/'

/-- The last character before the rest of a text, which `before` precedes. -/
def lastBefore (before : Char) (text rest : List Char) : Char :=
  (text.take (text.length - rest.length)).getLast?.getD before

/-- The attributes at the start of the text, and what follows them.  At most
`fuel` attributes are read; each of them has at least one character. -/
def attributesUpTo : Nat → Char → List Char → List Written × List Char
  | 0, _, cs => ([], cs)
  | fuel + 1, before, cs =>
      if separates before then
        match attribute? cs with
        | some found =>
            let rest := skipSeparators found.rest
            let (more, last) := attributesUpTo fuel (lastBefore before cs rest) rest
            (found :: more, last)
        | none => ([], cs)
      else
        ([], cs)

/-- The attributes after the name of a tag, which ends with `before`, and what
follows them. -/
def readAttributes (before : Char) (cs : List Char) : List Written × List Char :=
  let rest := skipSeparators cs
  attributesUpTo cs.length (lastBefore before cs rest) rest

/-- The names of attributes in a written tag, after the name of the tag. -/
def writtenNamesUpTo : Nat → List Char → List (List Char)
  | 0, _ => []
  | fuel + 1, cs =>
      match attribute? (cs.dropWhile fun c => !(startsAttribute c && c ≠ '=')) with
      | some found => found.name :: writtenNamesUpTo fuel found.rest
      | none => []

def lowered (cs : List Char) : String :=
  String.ofList (Character.lowerAll cs)

/-- The name of a tag as it was written, or its name in lower case if the
characters after the bracket are another name. -/
def nameAsWritten (name : String) (raw : List Char) : String :=
  let written := (raw.drop 1).take name.length
  if lowered written = name then String.ofList written else name

/-- The names of the attributes as they were written, or in lower case if the
written names are others. -/
def namesAsWritten (name : String) (raw : List Char) (names : List String) : List String :=
  let written := writtenNamesUpTo raw.length (raw.drop (1 + name.length))
  if written.map lowered = names then written.map String.ofList else names

/-- The attribute of an element; references in a value are replaced. -/
def Written.toAttribute? (written : Written) : Option Attribute :=
  match written.value with
  | none => some ⟨lowered written.name, none⟩
  | some value =>
      (Reference.decode value).map fun decoded =>
        ⟨lowered written.name, some (String.ofList decoded)⟩

/-- What stands at the start of a text that starts like a tag. -/
inductive Reading where
  | incomplete
  /-- So many characters of text. -/
  | text (length : Nat)
  | tag (tag : StartTag)
  /-- A value holds a numeral with too many digits. -/
  | tooLong

/-- Whether a tag that stops before the character may go on after it. -/
def mayGoOn (c : Char) : Bool :=
  c.isAlpha || c = '=' || c = '/'

/-- Read the start tag at the start of a text. -/
def read (cs : List Char) : Reading :=
  let name := (cs.drop 1).takeWhile continuesName
  let afterName := (cs.drop 1).dropWhile continuesName
  let (written, rest) := readAttributes (name.getLast?.getD '<') afterName
  let before := cs.length - rest.length
  let complete (length : Nat) (selfClosing : Bool) : Reading :=
    match written.mapM Written.toAttribute? with
    | none => .tooLong
    | some attributes =>
        let raw := cs.take length
        .tag
          { name := lowered name
            attributes := attributes
            raw := String.ofList raw
            writtenName := nameAsWritten (lowered name) raw
            writtenAttributes := namesAsWritten (lowered name) raw (attributes.map Attribute.name)
            selfClosing := selfClosing }
  match rest with
  | [] => .incomplete
  | '>' :: _ => complete (before + 1) false
  | '/' :: '>' :: _ => complete (before + 2) true
  | c :: _ => if mayGoOn c then .incomplete else .text before

end StartTag

end LayoutBinding
