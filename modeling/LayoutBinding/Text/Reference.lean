import LayoutBinding.Number.Numeral
import LayoutBinding.Text.NamedReference

/-!
# Character references

References in attribute values are replaced by the characters that they stand
for.  A numeric reference gives a code point, of which some stand for another
character or for none; a name that is not known is searched for the longest
older name at its start, and stays as it is without one.
-/

namespace LayoutBinding

namespace Reference

/-- Characters that code points of the second control block stand for, by the
code points 128 to 159. -/
def controlImages : List Nat :=
  [8364, 129, 8218, 402, 8222, 8230, 8224, 8225, 710, 8240, 352, 8249, 338, 141, 381, 143,
    144, 8216, 8217, 8220, 8221, 8226, 8211, 8212, 732, 8482, 353, 8250, 339, 157, 382, 376]

def isVoid (code : Nat) : Bool :=
  (1 ≤ code && code ≤ 8) || code = 11 || (14 ≤ code && code ≤ 31) || code = 127 ||
    (64976 ≤ code && code ≤ 65007) || code % 65536 = 65534 || code % 65536 = 65535

/-- The characters that a code point stands for. -/
def ofCode (code : Nat) : List Char :=
  if code = 0 ∨ 1114111 < code ∨ 55296 ≤ code ∧ code ≤ 57343 then
    [Char.ofNat 65533]
  else if 128 ≤ code ∧ code ≤ 159 then
    [Char.ofNat (controlImages.getD (code - 128) 65533)]
  else if isVoid code then
    []
  else
    [Char.ofNat code]

/-- The value of an ASCII hexadecimal digit. -/
def hexValue? (c : Char) : Option Nat :=
  if c.isDigit then
    some (c.toNat - 48)
  else if 'a' ≤ c ∧ c ≤ 'f' then
    some (c.toNat - 87)
  else if 'A' ≤ c ∧ c ≤ 'F' then
    some (c.toNat - 55)
  else
    none

def isHexDigit (c : Char) : Bool :=
  (hexValue? c).isSome

def hexNumber (cs : List Char) : Nat :=
  cs.foldl (fun value c => 16 * value + (hexValue? c).getD 0) 0

/-- The length with a semicolon, if one follows. -/
def withSemicolon (length : Nat) (rest : List Char) : Nat :=
  if rest.head? = some ';' then length + 1 else length

/-- What a reference stands for, and its length. -/
structure Found where
  /-- The characters; a numeral with too many digits gives none. -/
  image : Option (List Char)
  /-- The number of characters of the reference after the ampersand. -/
  length : Nat

/-- The numeric reference after `&#`. -/
def numeric? (cs : List Char) : Option Found :=
  let decimal := cs.takeWhile Char.isDigit
  if decimal ≠ [] then
    let length := withSemicolon (1 + decimal.length) (cs.drop decimal.length)
    if decimal.length ≤ Numeral.digitLimit then
      some ⟨(Numeral.digitsValue? decimal).map ofCode, length⟩
    else
      some ⟨none, length⟩
  else
    match cs with
    | x :: more =>
        let digits := more.takeWhile isHexDigit
        if (x = 'x' ∨ x = 'X') ∧ digits ≠ [] then
          some ⟨some (ofCode (hexNumber digits)),
            withSemicolon (2 + digits.length) (more.drop digits.length)⟩
        else
          none
    | [] => none

def isNameChar (c : Char) : Bool :=
  !(c = '\t' || c = '\n' || c = '\x0c' || c = ' ' || c = '<' || c = '&' || c = '#' || c = ';')

/-- The longest older name of at most `length` and at least two characters at
the start of a name, with its image. -/
def olderName? (name : List Char) : Nat → Option (List Char × Nat)
  | 0 => none
  | length + 1 =>
      if length = 0 then
        none
      else
        match NamedReference.unterminated? (name.take (length + 1)) with
        | some image => some (image, length + 1)
        | none => olderName? name length

/-- What a name stands for. -/
def nameImage (name : List Char) (terminated : Bool) : List Char :=
  let written := if terminated then name ++ [';'] else name
  match if terminated then NamedReference.characters? name
      else NamedReference.unterminated? name with
  | some image => image
  | none =>
      match olderName? name (written.length - 1) with
      | some (image, length) => image ++ written.drop length
      | none => '&' :: written

/-- The reference after an ampersand. -/
def reference? (cs : List Char) : Option Found :=
  match cs with
  | '#' :: rest => numeric? rest
  | _ =>
      let name := (cs.takeWhile isNameChar).take 32
      if name = [] then
        none
      else
        let terminated := (cs.drop name.length).head? = some ';'
        some ⟨some (nameImage name terminated), withSemicolon name.length (cs.drop name.length)⟩

/-- Replace the references in a text, unless a numeral has too many digits. -/
def decode : List Char → Option (List Char)
  | [] => some []
  | c :: cs =>
      if c = '&' then
        match reference? cs with
        | some found =>
            match found.image, decode (cs.drop found.length) with
            | some image, some rest => some (image ++ rest)
            | _, _ => none
        | none => (decode cs).map ('&' :: ·)
      else
        (decode cs).map (c :: ·)
termination_by cs => cs.length
decreasing_by all_goals (simp only [List.length_drop, List.length_cons]; omega)

end Reference

end LayoutBinding
