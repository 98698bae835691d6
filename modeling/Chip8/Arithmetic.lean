/-!
# Arithmetic with flags

Eight-bit results beside the flag that goes with them. The operands are
numbers of any size: a sum or difference is reduced to its low byte, and the
flag is taken from the operands themselves, so it tells what the reduced result
no longer shows. A difference raises its flag only when the minuend is strictly
greater; equal operands leave it at zero.
-/

namespace Chip8.Arithmetic

structure Flagged where
  value : UInt8
  flag : Bool
  deriving DecidableEq, Repr

def flagByte (flag : Bool) : UInt8 :=
  if flag then 1 else 0

/-- The low byte of an integer, negative ones in two's complement. -/
def lowByte (z : Int) : UInt8 :=
  UInt8.ofNat (z % 256).toNat

theorem lowByte_toNat (b : UInt8) : lowByte b.toNat = b := by
  have := b.toNat_lt
  have hmod : ((b.toNat : Int) % 256).toNat = b.toNat := by omega
  rw [lowByte, hmod, UInt8.ofNat_toNat]

theorem toNat_lowByte (z : Int) : ((lowByte z).toNat : Int) = z % 256 := by
  have hbyte : (lowByte z).toNat = (z % 256).toNat % 256 := by simp [lowByte]
  omega

/-- Sum, with the carry out of the top bit as flag. -/
def add (a b : Nat) : Flagged :=
  ⟨UInt8.ofNat (a + b), decide (255 < a + b)⟩

/-- Difference, with `a > b` as flag. -/
def sub (a b : Nat) : Flagged :=
  ⟨lowByte ((a : Int) - b), decide (b < a)⟩

def addWrapping (a b : Nat) : UInt8 :=
  UInt8.ofNat (a + b)

/-- Half of the low byte, with its lowest bit as flag. -/
def shiftRight (a : Nat) : Flagged :=
  ⟨UInt8.ofNat (a % 256 / 2), decide (a % 2 = 1)⟩

/-- Twice the low byte, with its top bit as flag. -/
def shiftLeft (a : Nat) : Flagged :=
  ⟨UInt8.ofNat (2 * a), decide (a / 128 % 2 = 1)⟩

structure Decimal where
  hundreds : UInt8
  tens : UInt8
  units : UInt8
  deriving DecidableEq, Repr

def decimal (a : Nat) : Decimal :=
  let b := a % 256
  ⟨UInt8.ofNat (b / 100), UInt8.ofNat (b / 10 % 10), UInt8.ofNat (b % 10)⟩

end Chip8.Arithmetic
