/-!
# Digit glyphs

The machine starts with a sprite for each hexadecimal digit at the bottom of
its memory, five rows a digit and four pixels a row; the pixels are the high
nibble of each byte. A program may overwrite them.
-/

namespace Chip8.Glyph

def base : Nat := 0

def height : Nat := 5

def table : List (List UInt8) :=
  [[0xF0, 0x90, 0x90, 0x90, 0xF0],
    [0x20, 0x60, 0x20, 0x20, 0x70],
    [0xF0, 0x10, 0xF0, 0x80, 0xF0],
    [0xF0, 0x10, 0xF0, 0x10, 0xF0],
    [0x90, 0x90, 0xF0, 0x10, 0x10],
    [0xF0, 0x80, 0xF0, 0x10, 0xF0],
    [0xF0, 0x80, 0xF0, 0x90, 0xF0],
    [0xF0, 0x10, 0x20, 0x40, 0x40],
    [0xF0, 0x90, 0xF0, 0x90, 0xF0],
    [0xF0, 0x90, 0xF0, 0x10, 0xF0],
    [0xF0, 0x90, 0xF0, 0x90, 0x90],
    [0xE0, 0x90, 0xE0, 0x90, 0xE0],
    [0xF0, 0x80, 0x80, 0x80, 0xF0],
    [0xE0, 0x90, 0x90, 0x90, 0xE0],
    [0xF0, 0x80, 0xF0, 0x80, 0xF0],
    [0xF0, 0x80, 0xF0, 0x80, 0x80]]

def bytes : List UInt8 :=
  table.flatten

example : table.length = 16 ∧ ∀ g ∈ table, g.length = height := by decide

example : bytes.length = 80 := by decide

/-- The address of the glyph of the lowest digit of `n`. -/
def addressOf (n : Nat) : Nat :=
  base + height * (n % 16)

end Chip8.Glyph
