import Chip8.Screen.Frame

/-!
# Sprites

A sprite row is a byte whose set bits, the top bit leftmost, are drawn by
inverting pixels. A row that leaves the screen on the right comes back in on
the left. A collision is a lit pixel that was inverted.
-/

namespace Chip8.Sprite

/-- Whether the pixel of a row in column `c` is set, the leftmost being
column 0. -/
def bit (row : UInt8) (c : Nat) : Bool :=
  row.toNat.testBit (7 - c)

def column (x : Nat) (c : Nat) : Column :=
  ⟨(x + c) % 64, by omega⟩

def row (y : Nat) (r : Nat) : Row :=
  ⟨(y + r) % 32, by omega⟩

/-- A picture under a sprite, and whether a lit pixel was inverted so far. -/
structure Drawing where
  frame : Frame
  collision : Bool
  deriving DecidableEq

def drawPixel (d : Drawing) (x : Column) (y : Row) : Drawing :=
  let collision := d.collision || d.frame.lit x y
  ⟨d.frame.flip x y, collision⟩

def drawRow (d : Drawing) (x : Nat) (y : Row) (b : UInt8) : Drawing :=
  (List.range 8).foldl
    (fun d c => if bit b c then drawPixel d (column x c) y else d) d

end Chip8.Sprite
