/-!
# Ranges of code points

A property of characters is a list of ranges, each given by its first and last code point.
-/

namespace SectorGate.Text

def inRanges (ranges : List (Nat × Nat)) (c : Char) : Bool :=
  ranges.any fun range => range.1 ≤ c.toNat && c.toNat ≤ range.2

end SectorGate.Text
