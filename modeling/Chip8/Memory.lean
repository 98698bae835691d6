import Chip8.Word
import Chip8.Memory.Fault
import Chip8.Memory.Glyph

/-!
# Memory

The address space is 4096 bytes with the digit glyphs at the bottom. It may be
addressed with any integer. `Address.ofInt?` tells whether an integer lies
inside; an access outside is recorded as a fault and has no other effect: a
read yields zero, a write is dropped. Nothing wraps to low addresses.
-/

namespace Chip8

def memorySize : Nat := 4096

structure Memory where
  bytes : Vector UInt8 4096
  faults : FaultLog
  deriving DecidableEq

namespace Memory

/-- The memory at power-on: glyphs at the bottom, zeros above. -/
def powerOn : Memory where
  bytes := ⟨(Glyph.bytes ++ List.replicate 4016 0).toArray, by
    rw [List.size_toArray, List.length_append, List.length_replicate]
    rfl⟩
  faults := {}

def fault? (kind : AccessKind) (a : Int) : Option Fault :=
  match Address.ofInt? a with
  | some _ => none
  | none => some ⟨kind, a⟩

def record (m : Memory) (f : Fault) : Memory :=
  { m with faults := m.faults.record f }

/-- The byte at an address and the memory after the access. -/
def read (m : Memory) (a : Int) : UInt8 × Memory :=
  match Address.ofInt? a with
  | some c => (m.bytes[c], m)
  | none => (0, m.record ⟨.read, a⟩)

def write (m : Memory) (a : Int) (b : UInt8) : Memory :=
  match Address.ofInt? a with
  | some c => { m with bytes := m.bytes.set c b }
  | none => m.record ⟨.write, a⟩

def load (m : Memory) (base : Int) : List UInt8 → Memory
  | [] => m
  | b :: rest => load (m.write base b) (base + 1) rest

@[simp] theorem load_nil (m : Memory) (base : Int) : m.load base [] = m := rfl

theorem load_cons (m : Memory) (base : Int) (b : UInt8) (rest : List UInt8) :
    m.load base (b :: rest) = (m.write base b).load (base + 1) rest := rfl

end Memory

end Chip8
