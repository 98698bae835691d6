import Chip8.Proofs.Course

/-!
# Programs in memory

`Memory.byteAt_load` tells for each address what is there after bytes were
copied into memory, and `Machine.fetch_inside` what is fetched while the
program counter lies inside: the word at it, without a fault, and nothing else
of the core changes but the keys and the program counter.
-/

namespace Chip8

namespace Memory

def byteAt (m : Memory) (a : Address) : UInt8 :=
  m.bytes.get a

theorem read_inside (m : Memory) {z : Int} {a : Address}
    (h : Address.ofInt? z = some a) :
    m.read z = (m.byteAt a, m) := by
  unfold read
  rw [h]
  rfl

theorem fault?_inside (kind : AccessKind) {z : Int} {a : Address}
    (h : Address.ofInt? z = some a) : fault? kind z = none := by
  unfold fault?
  rw [h]

theorem byteAt_write (m : Memory) (z : Int) (b : UInt8) (a : Address) :
    (m.write z b).byteAt a = if z = a.val then b else m.byteAt a := by
  unfold byteAt write Address.ofInt?
  by_cases hz : 0 ≤ z ∧ z < 4096
  · rw [dif_pos hz]
    have hiff : z.toNat = a.val ↔ z = a.val := by omega
    change (m.bytes.set z.toNat b (by omega))[a.val] = if z = a.val then b
      else m.bytes[a.val]
    simp [Vector.getElem_set, hiff]
  · rw [dif_neg hz]
    have hne : z ≠ a.val := by omega
    rw [if_neg hne]
    rfl

/-- The bytes of a program stand one after the other, and no others change. -/
theorem byteAt_load (m : Memory) (base : Int) (data : List UInt8)
    (a : Address) :
    (m.load base data).byteAt a =
      if (a.val : Int) < base then m.byteAt a
      else data[((a.val : Int) - base).toNat]?.getD (m.byteAt a) := by
  induction data generalizing m base with
  | nil => simp
  | cons b rest ih =>
      rw [load_cons, ih, byteAt_write]
      rcases Int.lt_trichotomy (a.val : Int) base with hlt | heq | hgt
      · have hne : base ≠ a.val := by omega
        have hlt' : (a.val : Int) < base + 1 := by omega
        rw [if_pos hlt', if_neg hne, if_pos hlt]
      · have hlt : (a.val : Int) < base + 1 := by omega
        rw [if_pos hlt, if_pos heq.symm, if_neg (by omega), ← heq]
        simp
      · have hne : base ≠ a.val := by omega
        have hidx : ((a.val : Int) - base).toNat =
            ((a.val : Int) - (base + 1)).toNat + 1 := by
          omega
        rw [if_neg (by omega), if_neg hne, if_neg (by omega), hidx,
          List.getElem?_cons_succ]

end Memory

namespace Core

variable {ρ : Type}

theorem readByte_inside (c : Core ρ) {z : Int} {a : Address}
    (h : Address.ofInt? z = some a) :
    c.readByte z = (c.memory.byteAt a, c) := by
  unfold readByte reportFault
  rw [Memory.read_inside _ h, Memory.fault?_inside _ h]

theorem readWord_inside (c : Core ρ) {z : Int} {a b : Address}
    (ha : Address.ofInt? z = some a) (hb : Address.ofInt? (z + 1) = some b) :
    c.readWord z =
      (Word.ofBytes (c.memory.byteAt a) (c.memory.byteAt b), c) := by
  unfold readWord
  rw [readByte_inside c ha]
  simp only [readByte_inside c hb]

theorem memory_writeByte (c : Core ρ) (z : Int) (b : UInt8) :
    (c.writeByte z b).memory = c.memory.write z b := by
  obtain ⟨events, h⟩ :=
    reportFault_eq { c with memory := c.memory.write z b } .write z
  rw [writeByte, h]

theorem memory_writeBytes (c : Core ρ) (base : Int) (data : List UInt8) :
    (c.writeBytes base data).memory = c.memory.load base data := by
  induction data generalizing c base with
  | nil => rfl
  | cons b rest ih => rw [writeBytes, ih, memory_writeByte, Memory.load_cons]

end Core

namespace Machine

variable {ρ δ : Type}

theorem memory_load (m : Machine ρ δ) (name : String) (base : Int)
    (data : List UInt8) :
    (m.load name base data).core.memory = m.core.memory.load base data :=
  Core.memory_writeBytes m.core base data

theorem fetch_inside (m : Machine ρ δ) {a b : Address}
    (ha : Address.ofInt? m.core.registers.pc = some a)
    (hb : Address.ofInt? (m.core.registers.pc + 1) = some b) :
    m.fetch =
      (Word.ofBytes (m.core.memory.byteAt a) (m.core.memory.byteAt b),
        { m with
          core := m.core.poll.goTo
            (Registers.wrap16 (m.core.registers.pc + 2)) }) := by
  have hread := Core.readWord_inside m.core.poll ha hb
  have hfetch : m.fetch =
      ((m.core.poll.readWord m.core.registers.pc).1,
        { m with
          core := (m.core.poll.readWord m.core.registers.pc).2.goTo
            (Registers.wrap16 (m.core.registers.pc + 2)) }) := rfl
  rw [hfetch, hread]
  rfl

end Machine

end Chip8
