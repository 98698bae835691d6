import Chip8.Numeric.Selection
import Chip8.Text.Numeral
import Chip8.Word

/-!
# Registers

The register file: sixteen byte registers of which the last takes the flags,
the index register, the program counter, the stack pointer, the two timers and
a count of the ticks done.

The general registers hold bytes and nothing else. The others are integers. The
processor gives sixteen bits to the index register and the program counter and
eight to the stack pointer and the timers; what it computes for them stays
within that width, but whoever sets them from outside may put any integer
there, and it stays until the next write.
-/

namespace Chip8

/-- The register that takes carries, borrows and collisions. -/
def flagRegister : Register := Fin.last 15

def offsetRegister : Register := ⟨0, by decide⟩

/-- Where programs are loaded and where the program counter starts. -/
def programStart : Nat := 0x200

structure Registers where
  v : Vector UInt8 16 := Vector.replicate 16 0
  index : Int := 0
  pc : Int := programStart
  sp : Int := 0
  delay : Int := 0
  sound : Int := 0
  cycles : Int := 0
  deriving DecidableEq, Repr

inductive RegisterError where
  | number (e : SelectionError)
  | notByte
  deriving DecidableEq, Repr

def RegisterError.message : RegisterError → String
  | number e => e.message "bytearray"
  | notByte => "byte must be in range(0, 256)"

namespace Registers

def powerOn : Registers := {}

/-- The byte that an integer is, if it is one. -/
def byte? (z : Int) : Option UInt8 :=
  if 0 ≤ z ∧ z < 256 then some (UInt8.ofNat z.toNat) else none

def wrap16 (z : Int) : Int :=
  z % 65536

def get (r : Registers) (x : Register) : UInt8 :=
  r.v[x]

def set (r : Registers) (x : Register) (b : UInt8) : Registers :=
  { r with v := r.v.set x b }

theorem get_set (r : Registers) (x y : Register) (b : UInt8) :
    (r.set x b).get y = if x = y then b else r.get y := by
  simp [get, set, Vector.getElem_set, Fin.ext_iff]

/-- The registers with the register of a number set to an integer. The value is
looked at before the number is, unless the number is oversize. -/
def setAt (r : Registers) (number value : Int) :
    Except RegisterError Registers :=
  match select 16 number, byte? value with
  | .error .oversize, _ => .error (.number .oversize)
  | _, none => .error .notByte
  | .error e, _ => .error (.number e)
  | .ok x, some b => .ok (r.set x b)

/-- The registers with a result in `Vx` and then a flag in `VF`; the flag wins
where `Vx` is `VF` itself. -/
def setFlagged (r : Registers) (x : Register) (b flag : UInt8) : Registers :=
  (r.set x b).set flagRegister flag

def setFlagBit (r : Registers) (z : Int) : Registers :=
  r.set flagRegister (UInt8.ofNat (z % 2).toNat)

def skip (r : Registers) : Registers :=
  { r with pc := wrap16 (r.pc + 2) }

def skipIf (r : Registers) (condition : Bool) : Registers :=
  if condition then r.skip else r

def entry (label : String) (w : Nat) (z : Int) : String :=
  label ++ "=" ++ Text.signedHex w z

def text (r : Registers) : String :=
  let named := [entry "PC" 4 r.pc, entry "I" 4 r.index, entry "SP" 2 r.sp,
    entry "DT" 2 r.delay, entry "ST" 2 r.sound]
  let general := (List.finRange 16).map fun (x : Register) =>
    entry (String.ofList ['V', Text.hexDigit x.val]) 2 (r.get x).toNat
  " ".intercalate (named ++ general)

end Registers

end Chip8
