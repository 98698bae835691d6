import Chip8.Instruction.Text
import Chip8.Registers

/-!
# Execution trace

While it is switched on, the trace gets a line for each instruction about to be
executed: where it stands, its word, its text and the registers, with the
program counter already past it.
-/

namespace Chip8

/-- The lines of a trace, newest first. -/
structure Trace where
  on : Bool := false
  lines : List String := []
  deriving DecidableEq, Repr

namespace Trace

def line (pc : Int) (w : Word) (i : Instruction) (r : Registers) : String :=
  "$" ++ Text.signedHex 3 pc ++ ": " ++
    String.ofList (Text.fixedHex 4 w.toNat) ++ "  " ++
    Text.padRight 18 i.text ++ " " ++ r.text

def note (t : Trace) (pc : Int) (w : Word) (i : Instruction) (r : Registers) :
    Trace :=
  if t.on then { t with lines := line pc w i r :: t.lines } else t

def clear (t : Trace) : Trace :=
  { t with lines := [] }

def text (t : Trace) : String :=
  "\n".intercalate t.lines.reverse

end Trace

end Chip8
