import LayoutBinding.Character.Digit

/-!
# Whole numbers in decimal notation

Whole numbers are read from the decimal digits of any script and written in
ASCII digits.  Neither reading nor writing handles more than `digitLimit`
digits.
-/

namespace LayoutBinding

namespace Numeral

/-- The greatest number of digits that is read or written. -/
def digitLimit : Nat :=
  4300

/-- The value of a run of decimal digits, continued from `value`. -/
def digitsValueFrom? (value : Nat) : List Char → Option Nat
  | [] => some value
  | c :: cs =>
      match Character.decimalValue? c with
      | some digit => digitsValueFrom? (10 * value + digit) cs
      | none => none

def digitsValue? : List Char → Option Nat
  | [] => none
  | c :: cs => digitsValueFrom? 0 (c :: cs)

/-- Split a leading sign off; the flag tells whether it is a minus. -/
def splitSign : List Char → Bool × List Char
  | '-' :: cs => (true, cs)
  | '+' :: cs => (false, cs)
  | cs => (false, cs)

/-- The whole number written by an optional sign and decimal digits. -/
def read? (cs : List Char) : Option Int :=
  let (negative, digits) := splitSign cs
  if digits.length ≤ digitLimit then
    (digitsValue? digits).map fun value =>
      if negative then -(value : Int) else value
  else
    none

def naturalChars (n : Nat) : List Char :=
  Nat.toDigits 10 n

def natural (n : Nat) : String :=
  String.ofList (naturalChars n)

/-- A natural number in decimal notation, filled up to `width` places with
leading zeros. -/
def padded (width n : Nat) : String :=
  let digits := naturalChars n
  String.ofList (List.replicate (width - digits.length) '0' ++ digits)

def whole : Int → String
  | .ofNat n => natural n
  | .negSucc n => "-" ++ natural (n + 1)

/-- A whole number in decimal notation, if it has no more digits than are
written. -/
def limited? (n : Int) : Option String :=
  if (naturalChars n.natAbs).length ≤ digitLimit then
    some (whole n)
  else
    none

end Numeral

end LayoutBinding
