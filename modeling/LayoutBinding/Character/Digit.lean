import LayoutBinding.Character.Letter

/-!
# Digits and other numerals

Decimal digits come in runs of ten, so a run is known by its zero.  Digits in
the wider sense also include superscripts and circled figures, which have a
digit value but no place in positional notation; numerals further include
fractions and letter numbers.  The tables follow Unicode 14.
-/

namespace LayoutBinding

namespace Character

/-- The code point of each decimal zero beyond ASCII. -/
def decimalZeros : List Nat :=
  [
    1632, 1776, 1984, 2406, 2534, 2662, 2790, 2918, 3046, 3174, 3302, 3430, 3558, 3664, 3792,
    3872, 4160, 4240, 6112, 6160, 6470, 6608, 6784, 6800, 6992, 7088, 7232, 7248, 42528, 43216,
    43264, 43472, 43504, 43600, 44016, 65296, 66720, 68912, 69734, 69872, 69942, 70096, 70384,
    70736, 70864, 71248, 71360, 71472, 71904, 72016, 72784, 73040, 73120, 92768, 92864, 93008,
    120782, 120792, 120802, 120812, 120822, 123200, 123632, 125264, 130032
  ]

/-- Digits that are no decimal digits, such as superscripts. -/
def figureRanges : List (Nat × Nat) :=
  [
    (178, 179), (185, 185), (4969, 4977), (6618, 6618), (8304, 8304), (8308, 8313),
    (8320, 8329), (9312, 9320), (9332, 9340), (9352, 9360), (9450, 9450), (9461, 9469),
    (9471, 9471), (10102, 10110), (10112, 10120), (10122, 10130), (68160, 68163),
    (69216, 69224), (69714, 69722), (127232, 127242)
  ]

/-- Numeric characters that are neither letters nor digits. -/
def numeralRanges : List (Nat × Nat) :=
  [
    (188, 190), (2548, 2553), (2930, 2935), (3056, 3058), (3192, 3198), (3416, 3422),
    (3440, 3448), (3882, 3891), (4978, 4988), (5870, 5872), (6128, 6137), (8528, 8578),
    (8581, 8585), (9321, 9331), (9341, 9351), (9361, 9371), (9451, 9460), (9470, 9470),
    (10111, 10111), (10121, 10121), (10131, 10131), (11517, 11517), (12295, 12295),
    (12321, 12329), (12344, 12346), (12690, 12693), (12832, 12841), (12872, 12879),
    (12881, 12895), (12928, 12937), (12977, 12991), (42726, 42735), (43056, 43061),
    (65799, 65843), (65856, 65912), (65930, 65931), (66273, 66299), (66336, 66339),
    (66369, 66369), (66378, 66378), (66513, 66517), (67672, 67679), (67705, 67711),
    (67751, 67759), (67835, 67839), (67862, 67867), (68028, 68029), (68032, 68047),
    (68050, 68095), (68164, 68168), (68221, 68222), (68253, 68255), (68331, 68335),
    (68440, 68447), (68472, 68479), (68521, 68527), (68858, 68863), (69225, 69246),
    (69405, 69414), (69457, 69460), (69573, 69579), (69723, 69733), (70113, 70132),
    (71482, 71483), (71914, 71922), (72794, 72812), (73664, 73684), (74752, 74862),
    (93019, 93025), (93824, 93846), (119520, 119539), (119648, 119672), (125127, 125135),
    (126065, 126123), (126125, 126127), (126129, 126132), (126209, 126253), (126255, 126269),
    (127243, 127244)
  ]

/-- The value of a decimal digit of any script. -/
def decimalValue? (c : Char) : Option Nat :=
  if c.isDigit then
    some (c.toNat - 48)
  else
    (decimalZeros.find? fun origin => origin ≤ c.toNat && c.toNat ≤ origin + 9).map
      fun origin => c.toNat - origin

/-- Decimal digits and the figures that are written like digits. -/
def isDigit (c : Char) : Bool :=
  (decimalValue? c).isSome || listed figureRanges c

/-- Letters, digits and other numerals. -/
def isAlphanumeric (c : Char) : Bool :=
  isLetter c || isDigit c || listed numeralRanges c

theorem isAlphanumeric_of_isLetter {c : Char} (letter : isLetter c = true) :
    isAlphanumeric c = true := by
  simp [isAlphanumeric, letter]

theorem decimalValue?_le {c : Char} {value : Nat}
    (decimal : decimalValue? c = some value) : value ≤ 9 := by
  unfold decimalValue? at decimal
  split at decimal
  · next digit =>
    simp only [Char.isDigit, Bool.and_eq_true, decide_eq_true_eq] at digit
    have upper : c.toNat ≤ 57 := UInt32.le_iff_toNat_le.mp digit.2
    simp only [Option.some.injEq] at decimal
    omega
  · obtain ⟨origin, found, rfl⟩ := Option.map_eq_some_iff.mp decimal
    have bounds := List.find?_some found
    simp only [Bool.and_eq_true, decide_eq_true_eq] at bounds
    omega

end Character

end LayoutBinding
