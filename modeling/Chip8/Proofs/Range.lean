import Chip8.Proofs.Footprint

/-!
# Register ranges

The index register, the program counter, the stack pointer and the timers are
integers. `Registers.InRange` says that each of them holds what its width
allows, and `Core.execute_inRange` that no instruction leaves that range.

No operation checks for it: a jump with an offset, a return, and loading a
timer write what they find without a mask. They stay in range since a byte plus
an address is a word, a slot of the stack holds a word and a general register a
byte. The one write that would be refused is a delay timer that holds no byte
(`Core.execute_ne_unfit`).
-/

namespace Chip8

/-- The registers that are no bytes hold what their widths allow. -/
structure Registers.InRange (r : Registers) : Prop where
  index : 0 ≤ r.index ∧ r.index < 65536
  pc : 0 ≤ r.pc ∧ r.pc < 65536
  sp : 0 ≤ r.sp ∧ r.sp < 256
  delay : 0 ≤ r.delay ∧ r.delay < 256
  sound : 0 ≤ r.sound ∧ r.sound < 256

theorem Registers.powerOn_inRange : Registers.powerOn.InRange := by
  constructor <;> decide

theorem Registers.wrap16_range (z : Int) :
    0 ≤ wrap16 z ∧ wrap16 z < 65536 := by
  unfold wrap16
  omega

theorem Registers.byte?_of_range {z : Int} (h : 0 ≤ z ∧ z < 256) :
    byte? z = some (UInt8.ofNat z.toNat) :=
  if_pos h

theorem Registers.toNat_range (b : UInt8) :
    0 ≤ (b.toNat : Int) ∧ (b.toNat : Int) < 256 := by
  have := b.toNat_lt
  omega

theorem CallStack.wrap_range (z : Int) : 0 ≤ wrap z ∧ wrap z < 256 := by
  unfold wrap
  omega

namespace Core

variable {ρ : Type} {c c' : Core ρ}

theorem skipIf_pc_range (hr : c.registers.InRange) (condition : Bool) :
    0 ≤ (c.skipIf condition).registers.pc ∧
      (c.skipIf condition).registers.pc < 65536 := by
  cases condition with
  | false => exact hr.pc
  | true => exact Registers.wrap16_range _

variable [RandomSource ρ] {shiftUsesVy : Bool} {i : Instruction}

theorem execute_pc_range (hr : c.registers.InRange)
    (h : c.execute shiftUsesVy i = .done c') :
    0 ≤ c'.registers.pc ∧ c'.registers.pc < 65536 := by
  have hf := execute_footprint h
  cases i with
  | jump nnn | call nnn =>
      cases h
      have := nnn.isLt
      exact ⟨by simp [call, goTo, mapRegisters],
        by simp [call, goTo, mapRegisters]; omega⟩
  | jumpOffset nnn =>
      cases h
      have hb := (c.get offsetRegister).toNat_lt
      have ha := nnn.isLt
      simp only [goTo, mapRegisters]
      omega
  | ret =>
      cases h
      have := c.popCall.1.toNat_lt
      simp only [ret, goTo, mapRegisters]
      omega
  | skipEqByte _ _ | skipNeByte _ _ | skipEqReg _ _ | skipNeReg _ _ | skipKey _
  | skipNotKey _ =>
      cases h
      exact skipIf_pc_range hr _
  | _ =>
      rw [hf.pc (by simp [Instruction.operation, Operation.flow])]
      exact hr.pc

theorem execute_index_range (hr : c.registers.InRange)
    (h : c.execute shiftUsesVy i = .done c') :
    0 ≤ c'.registers.index ∧ c'.registers.index < 65536 := by
  have hf := execute_footprint h
  cases i with
  | loadIndex nnn =>
      cases h
      have := nnn.isLt
      simp only [mapRegisters]
      omega
  | addIndex x =>
      cases h
      exact Registers.wrap16_range _
  | loadGlyph x =>
      cases h
      simp only [mapRegisters, Glyph.addressOf, Glyph.base, Glyph.height]
      omega
  | _ =>
      rw [hf.index (by simp [Instruction.operation])
        (by simp [Instruction.operation]) (by simp [Instruction.operation])]
      exact hr.index

theorem execute_sp_range (hr : c.registers.InRange)
    (h : c.execute shiftUsesVy i = .done c') :
    0 ≤ c'.registers.sp ∧ c'.registers.sp < 256 := by
  have hf := execute_footprint h
  cases i with
  | call nnn | ret =>
      cases h
      exact CallStack.wrap_range _
  | _ =>
      rw [hf.sp (by simp [Instruction.operation])
        (by simp [Instruction.operation])]
      exact hr.sp

theorem execute_delay_range (hr : c.registers.InRange)
    (h : c.execute shiftUsesVy i = .done c') :
    0 ≤ c'.registers.delay ∧ c'.registers.delay < 256 := by
  have hf := execute_footprint h
  cases i with
  | setDelay x =>
      cases h
      exact Registers.toNat_range _
  | _ =>
      rw [hf.delay (by simp [Instruction.operation])]
      exact hr.delay

theorem execute_sound_range (hr : c.registers.InRange)
    (h : c.execute shiftUsesVy i = .done c') :
    0 ≤ c'.registers.sound ∧ c'.registers.sound < 256 := by
  have hf := execute_footprint h
  cases i with
  | setSound x =>
      cases h
      exact Registers.toNat_range _
  | _ =>
      rw [hf.sound (by simp [Instruction.operation])]
      exact hr.sound

/-- No instruction leaves the register ranges. -/
theorem execute_inRange (hr : c.registers.InRange)
    (h : c.execute shiftUsesVy i = .done c') :
    c'.registers.InRange :=
  ⟨execute_index_range hr h, execute_pc_range hr h, execute_sp_range hr h,
    execute_delay_range hr h, execute_sound_range hr h⟩

/-- With the delay timer in range, no value is refused by its register. -/
theorem execute_ne_unfit (hr : c.registers.InRange) :
    c.execute shiftUsesVy i ≠ .unfit c' := by
  cases i with
  | readDelay x =>
      simp [execute, readDelay, Registers.byte?_of_range hr.delay]
  | waitKey x =>
      simp only [execute, waitKey_eq]
      cases (c.keypad.wait c.arrivals).key? <;> simp
  | _ => simp [execute]

theorem execute_eq_stalled_iff :
    c.execute shiftUsesVy i = .stalled c' ↔
      ∃ x, i = .waitKey x ∧ (c.keypad.wait c.arrivals).key? = none ∧
        c' = c.waited x := by
  cases i with
  | waitKey x => simp [execute, waitKey_eq_stalled_iff]
  | readDelay x =>
      simp only [execute, readDelay]
      cases Registers.byte? c.registers.delay <;> simp
  | _ => simp [execute]

end Core

end Chip8
