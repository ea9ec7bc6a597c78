import LayoutBinding.Character.Range

/-!
# Blanks

Blanks are the characters with the Unicode 14 bidirectional class `WS`, `B` or
`S`, or of the category `Zs`.  They separate words, are trimmed from both ends
of expressions and identifiers, and separate the attributes of a tag.
-/

namespace LayoutBinding

namespace Character

/-- Blanks beyond ASCII. -/
def blankRanges : List (Nat × Nat) :=
  [
    (133, 133), (160, 160), (5760, 5760), (8192, 8202), (8232, 8233), (8239, 8239),
    (8287, 8287), (12288, 12288)
  ]

/-- White space of any kind, the four separator controls included. -/
def isBlank (c : Char) : Bool :=
  (9 ≤ c.toNat && c.toNat ≤ 13) || (28 ≤ c.toNat && c.toNat ≤ 32) ||
    listed blankRanges c

end Character

end LayoutBinding
