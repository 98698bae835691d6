import Chip8.Screen.Frame

/-!
# Frames as text

Two ways to write a frame with characters. `Frame.plain` takes one character a
pixel and one line a row. `Frame.halfBlocks` packs two rows into a line: each
character is a block that is filled above, below, both or not at all.
-/

namespace Chip8.Frame

/-- The character for a pixel and the one below it. -/
def halfBlock : Bool → Bool → Char
  | false, false => ' '
  | true, false => '▀'
  | false, true => '▄'
  | true, true => '█'

def halfBlockLine (f : Frame) (l : Fin 16) : List Char :=
  (List.finRange 64).map fun (x : Column) =>
    halfBlock (f.lit x ⟨2 * l.val, by omega⟩)
      (f.lit x ⟨2 * l.val + 1, by omega⟩)

def halfBlockLines (f : Frame) : List String :=
  (List.finRange 16).map fun l => String.ofList (f.halfBlockLine l)

def halfBlocks (f : Frame) : String :=
  "\n".intercalate f.halfBlockLines

def plain (f : Frame) (on off : String) : String :=
  "\n".intercalate <| (List.finRange 32).map fun (y : Row) =>
    String.join ((List.finRange 64).map fun (x : Column) =>
      if f.lit x y then on else off)

end Chip8.Frame
