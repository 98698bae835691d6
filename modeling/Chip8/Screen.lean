import Chip8.Screen.Frame

/-!
# Screen

The screen of the machine is the frame being drawn together with a mark that it
was touched since it was last handed over. Changing a pixel to what it already
shows leaves the mark alone; clearing sets it always.
-/

namespace Chip8

structure Screen where
  frame : Frame := Frame.dark
  /-- Whether the frame was touched since it was last handed over. -/
  dirty : Bool := false
  deriving DecidableEq

namespace Screen

def powerOn : Screen := {}

def clear (_ : Screen) : Screen :=
  ⟨Frame.dark, true⟩

def setPixel (s : Screen) (x : Column) (y : Row) (on : Bool) : Screen :=
  if s.frame.lit x y = on then s else ⟨s.frame.set x y on, true⟩

def pixelAt (s : Screen) (x y : Int) : Except SelectionError Bool := do
  let (column, row) ← Frame.place x y
  return s.frame.lit column row

def setPixelAt (s : Screen) (x y : Int) (on : Bool) :
    Except SelectionError Screen := do
  let (column, row) ← Frame.place x y
  return s.setPixel column row on

end Screen

end Chip8
