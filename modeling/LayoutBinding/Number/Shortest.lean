import LayoutBinding.Number.Double

/-!
# Shortest decimal text of a double

A double is written with the fewest decimal digits that read back as it, and of
those with the ones nearest to it.  Whether a decimal reads back is decided on
the interval of numbers that round to the double, whose ends belong to it if
the significand is even.
-/

namespace LayoutBinding

namespace Double

/-- Four times a number `significand * 2 ^ exponent` as a quotient, with the
ends of the interval of numbers that round to it on the same denominator. -/
structure Neighbourhood where
  low : Nat
  value : Nat
  high : Nat
  denominator : Nat
  /-- Whether the ends belong to the interval. -/
  closed : Bool

/-- The interval of numbers that round to `significand * 2 ^ exponent`.  Below
a power of two the doubles are twice as close as above it. -/
def neighbourhood (significand : Nat) (exponent : Int) : Neighbourhood :=
  let narrow := significand = Nat.pow 2 52 ∧ exponent > leastExponent
  let (unit, denominator) :=
    if 0 ≤ exponent then (Nat.pow 2 exponent.toNat, 4) else (1, 4 * Nat.pow 2 (-exponent).toNat)
  { low := (4 * significand - if narrow then 1 else 2) * unit
    value := 4 * significand * unit
    high := (4 * significand + 2) * unit
    denominator := denominator
    closed := significand % 2 = 0 }

/-- Whether `digits * 10 ^ power` rounds to the number. -/
def Neighbourhood.contains (n : Neighbourhood) (digits : Nat) (power : Int) : Bool :=
  let (top, bottom) :=
    if 0 ≤ power then (digits * Nat.pow 10 power.toNat, 1)
    else (digits, Nat.pow 10 (-power).toNat)
  let point := top * n.denominator
  let low := n.low * bottom
  let high := n.high * bottom
  (low < point && point < high) || (n.closed && (point = low || point = high))

/-- The number divided by `10 ^ power`, as a quotient. -/
def Neighbourhood.quotient (n : Neighbourhood) (power : Int) : Nat × Nat :=
  if 0 ≤ power then
    (n.value, n.denominator * Nat.pow 10 power.toNat)
  else
    (n.value * Nat.pow 10 (-power).toNat, n.denominator)

/-- The best decimal `digits * 10 ^ power` that rounds to the number, if one of
the two neighbours of the number on this grid does. -/
def Neighbourhood.onGrid? (n : Neighbourhood) (power : Int) : Option Nat :=
  let (top, bottom) := n.quotient power
  let below := top / bottom
  let nearest := roundHalfEven top bottom
  let other := if nearest = below then below + 1 else below
  if n.contains nearest power then
    some nearest
  else if n.contains other power then
    some other
  else
    none

/-- The power of ten of the leading digit, searched upwards from a guess. -/
def Neighbourhood.leadingPower (n : Neighbourhood) : Nat → Int → Int
  | 0, guess => guess
  | fuel + 1, guess =>
      let (top, bottom) := n.quotient (guess + 1)
      if bottom ≤ top then n.leadingPower fuel (guess + 1) else guess

/-- The first grid, from the coarsest to the finest, with a decimal that rounds
to the number. -/
def Neighbourhood.search (n : Neighbourhood) : Nat → Int → Nat × Int
  | 0, power => (((n.quotient power).1 / (n.quotient power).2), power)
  | fuel + 1, power =>
      match n.onGrid? power with
      | some digits => (digits, power)
      | none => n.search fuel (power - 1)

/-- The shortest digits of a positive number and the power of ten of the last
one. -/
def shortest (significand : Nat) (exponent : Int) : Nat × Int :=
  let n := neighbourhood significand exponent
  let guess := ((significand.log2 : Int) + exponent) * 30103 / 100000 - 2
  n.search 17 (n.leadingPower 6 guess)

/-- Take trailing zeros off, raising the power of ten. -/
def dropZeros : List Char → Int → List Char × Int
  | [], power => ([], power)
  | c :: cs, power =>
      if c = '0' ∧ cs ≠ [] then dropZeros cs (power + 1) else ((c :: cs).reverse, power)

/-- Digits and the power of ten of the last one, in positional notation with a
point and at least one digit on each side of it. -/
def positional (digits : List Char) (power : Int) : List Char :=
  if 0 ≤ power then
    digits ++ List.replicate power.toNat '0' ++ ['.', '0']
  else
    let places := (-power).toNat
    let filled := List.replicate (places + 1 - digits.length) '0' ++ digits
    filled.take (filled.length - places) ++ '.' :: filled.drop (filled.length - places)

/-- Digits and the power of ten of the first one, in exponent notation. -/
def scientific (digits : List Char) (leading : Int) : List Char :=
  let fraction := digits.drop 1
  digits.take 1 ++ (if fraction = [] then [] else '.' :: fraction) ++
    ('e' :: (if leading < 0 then '-' else '+') :: (Numeral.padded 2 leading.natAbs).toList)

/-- The text of a number: positional if the power of ten of the leading digit
lies between -4 and 15, else in exponent notation. -/
def chars : Double → List Char
  | .notANumber => ['n', 'a', 'n']
  | .infinite negative => (if negative then ['-'] else []) ++ ['i', 'n', 'f']
  | .finite negative significand exponent =>
      (if negative then ['-'] else []) ++
        if significand = 0 then
          ['0', '.', '0']
        else
          let (value, power) := shortest significand exponent
          let (digits, power) := dropZeros (Numeral.naturalChars value).reverse power
          let leading := power + digits.length - 1
          if -4 ≤ leading ∧ leading < 16 then
            positional digits power
          else
            scientific digits leading

def text (d : Double) : String :=
  String.ofList d.chars

end Double

end LayoutBinding
