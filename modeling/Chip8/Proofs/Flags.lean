import Chip8.Proofs.Entitlement
import Mathlib.Data.Nat.Bitwise

/-!
# Flags of the values held before

Sums, differences and shifts put a result into `Vx` and a flag into `VF`, and
either of these may be a register that they read. All operands are taken before
anything is written, and the flag is written last. So result and flag are those
of the values held before, whichever registers coincide, and where `Vx` is `VF`
itself the flag stays.

`Flagging` lists the five operations. What they compute is said in integers of
any size: `Flagging.result` is not reduced to a byte, and `Flagging.raises`
looks at the operands and not at the result.
-/

namespace Chip8

/-- The operations that set a flag beside their result. -/
inductive Flagging where
  | add
  | sub
  | subReverse
  | shiftRight
  | shiftLeft
  deriving DecidableEq

namespace Flagging

def nibble : Flagging → Nat
  | add => 0x4
  | sub => 0x5
  | shiftRight => 0x6
  | subReverse => 0x7
  | shiftLeft => 0xE

def word (x y : Register) (o : Flagging) : Word :=
  UInt16.ofNat (0x8000 + 0x100 * x.val + 0x10 * y.val + o.nibble)

def instruction (x y : Register) : Flagging → Instruction
  | add => .addReg x y
  | sub => .sub x y
  | shiftRight => .shiftRight x y
  | subReverse => .subReverse x y
  | shiftLeft => .shiftLeft x y

def result (vx vy source : Int) : Flagging → Int
  | add => vx + vy
  | sub => vx - vy
  | subReverse => vy - vx
  | shiftRight => source / 2
  | shiftLeft => source * 2

/-- Whether the flag is raised: a carry, a difference above zero, a bit shifted
out. -/
def raises (vx vy source : Nat) : Flagging → Bool
  | add => 255 < vx + vy
  | sub => vy < vx
  | subReverse => vx < vy
  | shiftRight => source.testBit 0
  | shiftLeft => source.testBit 7

def compute (vx vy source : Nat) : Flagging → Arithmetic.Flagged
  | add => Arithmetic.add vx vy
  | sub => Arithmetic.sub vx vy
  | subReverse => Arithmetic.sub vy vx
  | shiftRight => Arithmetic.shiftRight source
  | shiftLeft => Arithmetic.shiftLeft source

theorem flag_compute (o : Flagging) (vx vy source : Nat) :
    (o.compute vx vy source).flag = o.raises vx vy source := by
  cases o with
  | add | sub | subReverse => rfl
  | shiftRight => exact (Nat.testBit_zero source).symm
  | shiftLeft =>
      rw [raises, Nat.testBit_eq_decide_div_mod_eq]
      rfl

theorem toNat_value_compute (o : Flagging) (vx vy : Nat) {source : Nat}
    (h : source < 256) :
    ((o.compute vx vy source).value.toNat : Int) =
      o.result vx vy source % 256 := by
  cases o with
  | sub | subReverse => exact Arithmetic.toNat_lowByte _
  | add =>
      have hbyte : (UInt8.ofNat (vx + vy)).toNat = (vx + vy) % 256 :=
        UInt8.toNat_ofNat'
      simp only [compute, Arithmetic.add, result, hbyte]
      omega
  | shiftRight =>
      have hbyte :
          (UInt8.ofNat (source % 256 / 2)).toNat = source % 256 / 2 % 256 :=
        UInt8.toNat_ofNat'
      simp only [compute, Arithmetic.shiftRight, result, hbyte]
      omega
  | shiftLeft =>
      have hbyte : (UInt8.ofNat (2 * source)).toNat = 2 * source % 256 :=
        UInt8.toNat_ofNat'
      simp only [compute, Arithmetic.shiftLeft, result, hbyte]
      omega

theorem ofWord?_word (o : Flagging) (x y : Register) :
    Instruction.ofWord? (o.word x y) = some (o.instruction x y) := by
  have hnibble : o.nibble < 16 := by cases o <;> decide
  have hword : (o.word x y).toNat =
      0x8000 + 0x100 * x.val + 0x10 * y.val + o.nibble := by
    rw [word, UInt16.toNat_ofNat']
    omega
  have hfamily : (o.word x y).family.val = 8 := by
    simp only [Word.family]
    omega
  have hx : (o.word x y).x = x := by
    simp only [Word.x, Fin.ext_iff]
    omega
  have hy : (o.word x y).y = y := by
    simp only [Word.y, Fin.ext_iff]
    omega
  have hn : (o.word x y).n.val = o.nibble := by
    simp only [Word.n]
    omega
  rw [Instruction.ofWord?, hfamily]
  simp only [hx, hy, hn]
  cases o <;> rfl

end Flagging

namespace Core

variable {ρ : Type} [RandomSource ρ]

theorem execute_flagging (shiftUsesVy : Bool) (c : Core ρ) (o : Flagging)
    (x y : Register) :
    c.execute shiftUsesVy (o.instruction x y) =
      .done (c.setFlagged x (o.compute (c.get x).toNat (c.get y).toNat
        (c.shiftSource shiftUsesVy x y))) := by
  cases o <;> rfl

/-- What an operation with a flag leaves, whichever of its registers
coincide. -/
theorem flag_and_result_of_values_before (shiftUsesVy : Bool) (c : Core ρ)
    (o : Flagging) (x y : Register) :
    let vx := (c.get x).toNat
    let vy := (c.get y).toNat
    let source := if shiftUsesVy then vy else vx
    Instruction.ofWord? (o.word x y) = some (o.instruction x y) ∧
      ∃ c', c.execute shiftUsesVy (o.instruction x y) = .done c' ∧
        c'.get flagRegister = (if o.raises vx vy source then 1 else 0) ∧
        (x ≠ flagRegister →
          ((c'.get x).toNat : Int) = o.result vx vy source % 256) ∧
        (∀ z, z ≠ x → z ≠ flagRegister → c'.get z = c.get z) ∧
        c' = { c with
          registers := { c.registers with v := c'.registers.v } } := by
  intro vx vy source
  have hsource : c.shiftSource shiftUsesVy x y = source := by
    cases shiftUsesVy <;> rfl
  have hbyte : source < 256 := by
    rw [← hsource]
    exact UInt8.toNat_lt _
  refine ⟨o.ofWord?_word x y, _, execute_flagging shiftUsesVy c o x y, ?_, ?_,
    ?_, rfl⟩
  · rw [get_setFlagged, if_pos rfl, hsource, o.flag_compute]
    rfl
  · intro hx
    rw [get_setFlagged, if_neg hx, if_pos rfl, hsource]
    exact o.toNat_value_compute vx vy hbyte
  · intro z hx hf
    exact c.get_setFlagged_of_ne hx hf _

end Core

end Chip8
