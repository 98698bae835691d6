import Chip8.Numeric.Selection

/-!
# Frames

A frame is a picture of 64 by 32 pixels, each lit or dark. Pixels are addressed
by column and row, `(0, 0)` in the top left corner. `lit_set` says what a
changed pixel does to all pixels: it changes that one and no other.

`Frame.place` takes integers, where a negative column or row counts from the
far edge; a place beyond either edge is off the screen.
-/

namespace Chip8

def screenWidth : Nat := 64

def screenHeight : Nat := 32

abbrev Column := Fin 64

abbrev Row := Fin 32

structure Frame where
  pixels : Vector Bool 2048
  deriving DecidableEq

namespace Frame

def dark : Frame :=
  ⟨Vector.replicate 2048 false⟩

def index (x : Column) (y : Row) : Fin 2048 :=
  ⟨64 * y.val + x.val, by omega⟩

theorem index_inj {x x' : Column} {y y' : Row} :
    index x y = index x' y' ↔ x = x' ∧ y = y' := by
  simp only [index, Fin.ext_iff]
  omega

def lit (f : Frame) (x : Column) (y : Row) : Bool :=
  f.pixels[index x y]

def set (f : Frame) (x : Column) (y : Row) (on : Bool) : Frame :=
  ⟨f.pixels.set (index x y) on⟩

theorem lit_set (f : Frame) (x x' : Column) (y y' : Row) (on : Bool) :
    (f.set x y on).lit x' y' =
      if x = x' ∧ y = y' then on else f.lit x' y' := by
  have h : (index x y).val = (index x' y').val ↔ x = x' ∧ y = y' := by
    rw [← Fin.ext_iff, index_inj]
  simp only [lit, set, Fin.getElem_fin, Vector.getElem_set, h]

@[simp] theorem lit_dark (x : Column) (y : Row) : dark.lit x y = false := by
  simp [dark, lit]

def flip (f : Frame) (x : Column) (y : Row) : Frame :=
  f.set x y (!f.lit x y)

def litCount (f : Frame) : Nat :=
  f.pixels.toList.count true

/-- The column and row that two integers select; the column is looked at
first. -/
def place (x y : Int) : Except SelectionError (Column × Row) := do
  let column ← select 64 x
  let row ← select 32 y
  return (column, row)

end Frame

end Chip8
