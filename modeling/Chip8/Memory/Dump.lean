import Chip8.Memory
import Chip8.Text.Numeral

/-!
# Memory dump

A dump shows sixteen bytes a line: the address, the bytes in hexadecimal and
the printable ASCII characters among them, with a dot for every other byte.
Addresses wrap at the end of the address space, so a dump never faults.
-/

namespace Chip8.Memory

/-- The byte at an address reduced to the address space. -/
def peek (m : Memory) (a : Int) : UInt8 :=
  m.bytes.get ⟨(a % 4096).toNat, by omega⟩

def dumpChar (b : UInt8) : Char :=
  if 0x20 ≤ b ∧ b < 0x7F then Char.ofNat b.toNat else '.'

def dumpLine (m : Memory) (start : Int) : String :=
  let a := (start % 4096).toNat
  let row := (List.range 16).map fun i => m.peek ((a + i : Nat) : Int)
  Text.hex 3 a ++ "  " ++
    " ".intercalate
      (row.map fun b => String.ofList (Text.fixedHex 2 b.toNat)) ++
    "  " ++ String.ofList (row.map dumpChar)

/-- The lines from `start` that cover `length` bytes; none if `length` is not
positive. -/
def dump (m : Memory) (start length : Int) : String :=
  "\n".intercalate <|
    (List.range ((length.toNat + 15) / 16)).map fun (i : Nat) =>
      m.dumpLine (start + 16 * i)

end Chip8.Memory
