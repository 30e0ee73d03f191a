/-!
# Ranges of code points

A class of characters is given by ranges of code points, in ascending order and apart.
-/

namespace JitAccess.Text

/-- Whether the code point of a character is in one of some ranges, ends included. -/
def inRanges (ranges : List (Nat × Nat)) (c : Char) : Bool :=
  ranges.any fun r => r.1 ≤ c.toNat && c.toNat ≤ r.2

end JitAccess.Text
