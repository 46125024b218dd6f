/-!
# Ranges of characters

A class of characters is given by the ranges of its code points.
-/

namespace SealedKey.Text

/-- Whether a character is in one of the ranges, which are given by their ends. -/
def inRanges (ranges : List (Nat × Nat)) (c : Char) : Bool :=
  ranges.any fun (first, last) => first ≤ c.toNat && c.toNat ≤ last

end SealedKey.Text
