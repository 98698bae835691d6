import Chip8.Word

/-!
# Call stack

Sixteen slots for return addresses, addressed by the stack pointer modulo
sixteen. A call first raises the stack pointer and then fills its slot, a
return reads the slot and then lowers the stack pointer; either wraps the
pointer to a byte. Sixteen calls deep all slots are in use, and a deeper call
overwrites the oldest return address.
-/

namespace Chip8

structure CallStack where
  slots : Vector Word 16 := Vector.replicate 16 0
  deriving DecidableEq

namespace CallStack

def empty : CallStack := {}

theorem toNat_emod_lt (sp : Int) : (sp % 16).toNat < 16 := by
  omega

def slot (sp : Int) : Fin 16 :=
  ⟨(sp % 16).toNat, toNat_emod_lt sp⟩

def wrap (sp : Int) : Int :=
  sp % 256

def top (s : CallStack) (sp : Int) : Word :=
  s.slots[slot sp]

def push (s : CallStack) (sp : Int) (a : Word) : Int × CallStack :=
  (wrap (sp + 1), ⟨s.slots.set (slot (wrap (sp + 1))) a⟩)

def pop (s : CallStack) (sp : Int) : Word × Int :=
  (s.top sp, wrap (sp - 1))

/-- A call is undone by the return that follows it, but for the width of the
stack pointer. -/
theorem pop_push (s : CallStack) (sp : Int) (a : Word) :
    (s.push sp a).2.pop (s.push sp a).1 = (a, wrap sp) := by
  simp only [push, pop, top, Fin.getElem_fin, Vector.getElem_set_self, wrap]
  congr 1
  omega

end CallStack

end Chip8
