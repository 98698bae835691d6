/-!
# Character ranges

A class of characters is given by the ranges of code points that make it up,
both ends included.
-/

namespace Chip8.Text

def inRanges (ranges : List (Nat × Nat)) (c : Char) : Bool :=
  ranges.any fun r => r.1 ≤ c.toNat && c.toNat ≤ r.2

end Chip8.Text
