/-!
# Ranges of code points

A character property is written as a list of closed code point ranges.
Membership is a plain search: every table is consulted for non-ASCII
characters only, which are rare in templates.
-/

namespace LayoutBinding

namespace Character

def listed (ranges : List (Nat × Nat)) (c : Char) : Bool :=
  ranges.any fun range => range.1 ≤ c.toNat && c.toNat ≤ range.2

end Character

end LayoutBinding
