import LayoutBinding.Text.Trim

/-!
# Declared anchors

The anchors of a page are declared in its source by calls such as
`$section.id("setup")`.  A doubled dollar sign does not start a call.
-/

namespace LayoutBinding

namespace Anchor

/-- What starts a declaration. -/
def opening : List Char :=
  "$section.id(".toList

/-- What follows the end of a declaration, if the text starts with it. -/
def closing? (quote : Char) : List Char → Option (List Char)
  | c :: cs =>
      if c = quote then
        match cs.dropWhile Character.isBlank with
        | ')' :: rest => some rest
        | _ => none
      else
        none
  | [] => none

/-- The shortest name of one or more characters of one line before the end of a
declaration, and what follows. -/
def name? (quote : Char) : List Char → Option (List Char × List Char)
  | [] => none
  | c :: cs =>
      if c = '\n' then
        none
      else
        match closing? quote cs with
        | some rest => some ([c], rest)
        | none => (name? quote cs).map fun (name, rest) => (c :: name, rest)

/-- The name declared at the start of the text, and what follows. -/
def declaration? (cs : List Char) : Option (List Char × List Char) :=
  if opening.isPrefixOf cs then
    match (cs.drop opening.length).dropWhile Character.isBlank with
    | quote :: rest => if quote = '"' ∨ quote = '\'' then name? quote rest else none
    | [] => none
  else
    none

/-- The declared names in order.  The first `skipped` characters belong to a
declaration already read; the flag tells whether a dollar sign comes before. -/
def namesFrom (skipped : Nat) (dollarBefore : Bool) : List Char → List (List Char)
  | [] => []
  | c :: cs =>
      if 0 < skipped then
        namesFrom (skipped - 1) (c = '$') cs
      else
        match if dollarBefore then none else declaration? (c :: cs) with
        | some (name, rest) => name :: namesFrom (cs.length - rest.length) (c = '$') cs
        | none => namesFrom 0 (c = '$') cs

end Anchor

/-- The anchors declared in the source of a page, in order. -/
def declaredAnchors (source : String) : List String :=
  (Anchor.namesFrom 0 false source.toList).map String.ofList

end LayoutBinding
