import LayoutBinding.Number.Numeral

/-!
# Double-precision numbers

A double is held by its exact value: a significand of at most 53 bits times a
power of two, or one of the values beyond the finite ones.  Reading a decimal
numeral rounds its exact value to the nearest double, and of two equally near
ones to the one with an even significand.
-/

namespace LayoutBinding

/-- A binary floating-point number of double precision. -/
inductive Double where
  /-- The number `significand * 2 ^ exponent`, with a sign that zero has too. -/
  | finite (negative : Bool) (significand : Nat) (exponent : Int)
  | infinite (negative : Bool)
  /-- The result of a computation without a value. -/
  | notANumber
deriving DecidableEq

/-- The quotient rounded to the nearest natural number, a half to the even
neighbour. -/
def roundHalfEven (numerator denominator : Nat) : Nat :=
  let quotient := numerator / denominator
  let remainder := numerator % denominator
  if 2 * remainder < denominator ∨ 2 * remainder = denominator ∧ quotient % 2 = 0 then
    quotient
  else
    quotient + 1

namespace Double

/-- The numerator and denominator of `numerator / denominator / 2 ^ exponent`. -/
def scale (numerator denominator : Nat) (exponent : Int) : Nat × Nat :=
  if 0 ≤ exponent then
    (numerator, denominator * Nat.pow 2 exponent.toNat)
  else
    (numerator * Nat.pow 2 (-exponent).toNat, denominator)

def leastExponent : Int :=
  -1074

def greatestExponent : Int :=
  971

/-- The exponent at which the quotient has a significand of 53 bits, or the
least exponent. -/
def exponentFor (numerator denominator : Nat) : Int :=
  let guess : Int := (numerator.log2 : Int) - denominator.log2 - 52
  let (top, bottom) := scale numerator denominator guess
  let exponent := if top < bottom * Nat.pow 2 52 then guess - 1 else guess
  max exponent leastExponent

/-- The double nearest to a quotient of natural numbers. -/
def ofRatio (negative : Bool) (numerator denominator : Nat) : Double :=
  if numerator = 0 then
    .finite negative 0 0
  else
    let exponent := exponentFor numerator denominator
    let (top, bottom) := scale numerator denominator exponent
    let rounded := roundHalfEven top bottom
    let (significand, exponent) :=
      if rounded = Nat.pow 2 53 then (Nat.pow 2 52, exponent + 1) else (rounded, exponent)
    if significand = 0 then
      .finite negative 0 0
    else if exponent > greatestExponent then
      .infinite negative
    else
      .finite negative significand exponent

/-- The double nearest to `digits * 10 ^ exponent`.  Exponents far out of range
are decided before any power is taken. -/
def ofDecimal (negative : Bool) (digits : Nat) (exponent : Int) : Double :=
  let magnitude : Int := (Numeral.naturalChars digits).length + exponent
  if digits = 0 ∨ magnitude < -400 then
    .finite negative 0 0
  else if magnitude > 400 then
    .infinite negative
  else if 0 ≤ exponent then
    ofRatio negative (digits * Nat.pow 10 exponent.toNat) 1
  else
    ofRatio negative digits (Nat.pow 10 (-exponent).toNat)

/-- Split a run of characters at the first one that satisfies the test, which
is left out; without one the second part is missing. -/
def splitAt (test : Char → Bool) (cs : List Char) : List Char × Option (List Char) :=
  match cs.dropWhile (!test ·) with
  | [] => (cs, none)
  | _ :: rest => (cs.takeWhile (!test ·), some rest)

/-- The double written by digits with at most one point among them. -/
def readPositional? (negative : Bool) (cs : List Char) (shift : Int) : Option Double :=
  let (whole, fraction) := splitAt (· = '.') cs
  let fraction := fraction.getD []
  (Numeral.digitsValue? (whole ++ fraction)).map fun digits =>
    ofDecimal negative digits (shift - fraction.length)

/-- The double written by a decimal numeral: an optional sign, digits with at
most one point, and an optional power of ten; or by one of the names of the
values beyond the finite ones. -/
def read? (cs : List Char) : Option Double :=
  let (negative, body) := Numeral.splitSign cs
  let name := String.ofList (body.map Char.toLower)
  if name = "inf" ∨ name = "infinity" then
    some (.infinite negative)
  else if name = "nan" then
    some .notANumber
  else
    match splitAt (fun c => c = 'e' || c = 'E') body with
    | (digits, none) => readPositional? negative digits 0
    | (digits, some power) => do
        let (downwards, figures) := Numeral.splitSign power
        let size ← Numeral.digitsValue? figures
        readPositional? negative digits (if downwards then -(size : Int) else size)

/-- Whether two finite numbers of the form `significand * 2 ^ exponent` are
equal, their signs left aside. -/
def sameMagnitude (first : Nat) (firstExponent : Int) (second : Nat)
    (secondExponent : Int) : Bool :=
  let least := min firstExponent secondExponent
  first * Nat.pow 2 (firstExponent - least).toNat ==
    second * Nat.pow 2 (secondExponent - least).toNat

def isZero : Double → Bool
  | .finite _ significand _ => significand = 0
  | _ => false

/-- Whether two doubles are equal as numbers: the two zeros are, and a value
that is not a number equals nothing. -/
def sameNumber : Double → Double → Bool
  | .finite n₁ s₁ e₁, .finite n₂ s₂ e₂ =>
      (s₁ = 0 && s₂ = 0) || (n₁ == n₂ && sameMagnitude s₁ e₁ s₂ e₂)
  | .infinite n₁, .infinite n₂ => n₁ == n₂
  | _, _ => false

def isWhole (d : Double) (n : Int) : Bool :=
  d.sameNumber (.finite (n < 0) n.natAbs 0)

def isLess : Double → Double → Bool
  | .finite n₁ s₁ e₁, .finite n₂ s₂ e₂ =>
      let least := min e₁ e₂
      let signed (negative : Bool) (significand : Nat) (exponent : Int) : Int :=
        let size : Int := significand * Nat.pow 2 (exponent - least).toNat
        if negative then -size else size
      signed n₁ s₁ e₁ < signed n₂ s₂ e₂
  | .finite .., .infinite negative => !negative
  | .infinite negative, .finite .. => negative
  | .infinite n₁, .infinite n₂ => n₁ && !n₂
  | _, _ => false

end Double

end LayoutBinding
