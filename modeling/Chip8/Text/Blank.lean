import Chip8.Text.CharRange

/-!
# Blanks

The characters that separate words: those of bidirectional type WS, B or S and
those of category Zs in Unicode 14, which is wider than the ASCII blanks and
does not take in the zero-width characters.
-/

namespace Chip8.Text

def blankRanges : List (Nat × Nat) := [
    (0x9, 0xD), (0x1C, 0x20), (0x85, 0x85), (0xA0, 0xA0), (0x1680, 0x1680),
    (0x2000, 0x200A), (0x2028, 0x2029), (0x202F, 0x202F), (0x205F, 0x205F),
    (0x3000, 0x3000)]

def isBlank (c : Char) : Bool :=
  inRanges blankRanges c

/-- The blanks of the ASCII set that are left out around a number: space and
the controls from tab to carriage return. -/
def isAsciiBlank (c : Char) : Bool :=
  c = ' ' || (9 ≤ c.toNat && c.toNat ≤ 13)

def stripBy (p : Char → Bool) (cs : List Char) : List Char :=
  ((cs.dropWhile p).reverse.dropWhile p).reverse

def strip (cs : List Char) : List Char :=
  stripBy isBlank cs

end Chip8.Text
