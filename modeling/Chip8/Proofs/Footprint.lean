import Chip8.Core.Execute

/-!
# What an instruction leaves alone

`Core.Footprint o? c c'` lists, field by field, which operations may change a
part of the core: whatever an instruction of another operation does, that part
is the same afterwards. `Core.execute_footprint` says that every instruction
that is done keeps to its footprint.

The operations that work on a block of memory are loops. For each of them one
lemma (`storeRegs_eq`, `loadRegs_eq`, `draw_eq`) gives the core after the loop
as the core before it with the touched fields replaced, so that no later proof
opens a loop to see what it does not touch.
-/

namespace Chip8

def Operation.flow : List Operation :=
  [ret, jump, call, skipEqByte, skipNeByte, skipEqReg, skipNeReg, jumpOffset,
    skipKey, skipNotKey]

theorem Memory.read_snd (m : Memory) (a : Int) :
    ∃ faults, (m.read a).2 = { m with faults } := by
  unfold read
  split
  · exact ⟨m.faults, rfl⟩
  · exact ⟨m.faults.record _, rfl⟩

namespace Core

variable {ρ : Type}

theorem reportFault_eq (c : Core ρ) (kind : AccessKind) (a : Int) :
    ∃ events, c.reportFault kind a = { c with events } := by
  unfold reportFault
  split
  · exact ⟨_, rfl⟩
  · exact ⟨c.events, rfl⟩

theorem readByte_snd (c : Core ρ) (a : Int) :
    ∃ faults events, (c.readByte a).2 =
      { c with memory := { c.memory with faults }, events } := by
  obtain ⟨faults, hf⟩ := c.memory.read_snd a
  obtain ⟨events, he⟩ :=
    reportFault_eq { c with memory := (c.memory.read a).2 } .read a
  exact ⟨faults, events, he.trans (by rw [hf])⟩

theorem writeByte_eq (c : Core ρ) (a : Int) (b : UInt8) :
    ∃ memory events, c.writeByte a b = { c with memory, events } := by
  obtain ⟨events, he⟩ :=
    reportFault_eq { c with memory := c.memory.write a b } .write a
  exact ⟨c.memory.write a b, events, by rw [writeByte, he]⟩

theorem writeBytes_eq (c : Core ρ) (base : Int) (data : List UInt8) :
    ∃ memory events, c.writeBytes base data = { c with memory, events } := by
  induction data generalizing c base with
  | nil => exact ⟨c.memory, c.events, rfl⟩
  | cons b rest ih =>
      obtain ⟨memory, events, h⟩ := c.writeByte_eq base b
      obtain ⟨memory', events', h'⟩ := ih (c.writeByte base b) (base + 1)
      exact ⟨memory', events', by rw [writeBytes, h', h]⟩

theorem readWord_snd (c : Core ρ) (a : Int) :
    ∃ faults events, (c.readWord a).2 =
      { c with memory := { c.memory with faults }, events } := by
  obtain ⟨faults, events, h⟩ := c.readByte_snd a
  obtain ⟨faults', events', h'⟩ := (c.readByte a).2.readByte_snd (a + 1)
  exact ⟨faults', events', by rw [readWord, h', h]⟩

theorem storeDecimal_eq (c : Core ρ) (x : Register) :
    ∃ memory events, c.storeDecimal x = { c with memory, events } := by
  unfold storeDecimal
  obtain ⟨_, _, h₀⟩ := c.writeByte_eq (c.indexed 0)
    (Arithmetic.decimal (c.get x).toNat).hundreds
  obtain ⟨_, _, h₁⟩ := (c.writeByte (c.indexed 0)
    (Arithmetic.decimal (c.get x).toNat).hundreds).writeByte_eq (c.indexed 1)
    (Arithmetic.decimal (c.get x).toNat).tens
  obtain ⟨memory, events, h₂⟩ := ((c.writeByte (c.indexed 0)
    (Arithmetic.decimal (c.get x).toNat).hundreds).writeByte (c.indexed 1)
    (Arithmetic.decimal (c.get x).toNat).tens).writeByte_eq (c.indexed 2)
    (Arithmetic.decimal (c.get x).toNat).units
  exact ⟨memory, events, by rw [h₂, h₁, h₀]⟩

theorem storeRegs_eq (c : Core ρ) (x : Register) :
    ∃ memory events, c.storeRegs x = { c with memory, events } := by
  unfold storeRegs
  refine List.foldlRecOn (motive := fun d : Core ρ =>
    ∃ memory events, d = { c with memory, events }) _ _ ?_ ?_
  · exact ⟨c.memory, c.events, rfl⟩
  · rintro _ ⟨_, _, rfl⟩ r -
    obtain ⟨memory, events, h⟩ := writeByte_eq _ _ _
    exact ⟨memory, events, h⟩

theorem loadReg_eq (c : Core ρ) (r : Register) :
    ∃ v faults events, c.loadReg r =
      { c with
        registers := { c.registers with v }
        memory := { c.memory with faults }
        events } := by
  obtain ⟨faults, events, h⟩ := c.readByte_snd (c.indexed r.val)
  have hload : c.loadReg r =
      (c.readByte (c.indexed r.val)).2.set r
        (c.readByte (c.indexed r.val)).1 := rfl
  exact ⟨_, faults, events, by rw [hload, h]; rfl⟩

theorem loadRegs_eq (c : Core ρ) (x : Register) :
    ∃ v faults events, c.loadRegs x =
      { c with
        registers := { c.registers with v }
        memory := { c.memory with faults }
        events } := by
  unfold loadRegs
  refine List.foldlRecOn (motive := fun d : Core ρ => ∃ v faults events, d =
    { c with
      registers := { c.registers with v }
      memory := { c.memory with faults }
      events }) _ _ ?_ ?_
  · exact ⟨c.registers.v, c.memory.faults, c.events, rfl⟩
  · rintro _ ⟨_, _, _, rfl⟩ r -
    obtain ⟨v, faults, events, h⟩ := loadReg_eq _ r
    exact ⟨v, faults, events, h⟩

theorem drawRows_eq (c : Core ρ) (x y : UInt8) (d : Sprite.Drawing)
    (rows : List Nat) :
    ∃ faults events d', rows.foldl (drawRow x y) (c, d) =
      ({ c with memory := { c.memory with faults }, events }, d') := by
  refine List.foldlRecOn (motive := fun s : Core ρ × Sprite.Drawing =>
    ∃ faults events d', s =
      ({ c with memory := { c.memory with faults }, events }, d')) _ _ ?_ ?_
  · exact ⟨c.memory.faults, c.events, d, rfl⟩
  · rintro _ ⟨_, _, _, rfl⟩ r -
    obtain ⟨faults, events, h⟩ := readByte_snd _ _
    exact ⟨faults, events, _, Prod.ext h rfl⟩

theorem draw_eq (c : Core ρ) (x y : UInt8) (n : Nibble) :
    ∃ frame v faults events, c.draw x y n =
      { c with
        registers := { c.registers with v }
        memory := { c.memory with faults }
        screen := ⟨frame, true⟩
        events } := by
  obtain ⟨faults, events, d, h⟩ :=
    c.drawRows_eq x y ⟨c.screen.frame, false⟩ (List.range n.val)
  exact ⟨d.frame, _, faults, events, by rw [draw, h]; rfl⟩

/-- What is the same after a word was dealt with, by its operation; `none`
stands for a word that is no instruction. -/
structure Footprint (o? : Option Operation) (c c' : Core ρ) : Prop where
  stack : o? ≠ some .call → c'.stack = c.stack
  sp : o? ≠ some .call → o? ≠ some .ret → c'.registers.sp = c.registers.sp
  pc : o? ∉ Operation.flow.map some → c'.registers.pc = c.registers.pc
  screen : o? ≠ some .clear → o? ≠ some .draw → c'.screen = c.screen
  bytes : o? ≠ some .storeDecimal → o? ≠ some .storeRegs →
    c'.memory.bytes = c.memory.bytes
  index : o? ≠ some .loadIndex → o? ≠ some .addIndex →
    o? ≠ some .loadGlyph → c'.registers.index = c.registers.index
  delay : o? ≠ some .setDelay → c'.registers.delay = c.registers.delay
  sound : o? ≠ some .setSound → c'.registers.sound = c.registers.sound
  keypad : o? ≠ some .waitKey → c'.keypad = c.keypad ∧ c'.arrivals = c.arrivals
  random : o? ≠ some .random → c'.random = c.random
  cycles : c'.registers.cycles = c.registers.cycles

variable {c c' : Core ρ}

/-- Most instructions change general registers and nothing else, beside the
faults and the reports. -/
theorem Footprint.of_plain (o? : Option Operation) (c : Core ρ)
    (v : Vector UInt8 16) (faults : FaultLog) (events : List Event) :
    Footprint o? c { c with
      registers := { c.registers with v }
      memory := { c.memory with faults }
      events } :=
  ⟨fun _ => rfl, fun _ _ => rfl, fun _ => rfl, fun _ _ => rfl, fun _ _ => rfl,
    fun _ _ _ => rfl, fun _ => rfl, fun _ => rfl, fun _ => ⟨rfl, rfl⟩,
    fun _ => rfl, rfl⟩

theorem set_footprint (o? : Option Operation) (c : Core ρ) (x : Register)
    (b : UInt8) :
    Footprint o? c (c.set x b) :=
  .of_plain o? c _ c.memory.faults c.events

theorem setFlagged_footprint (o? : Option Operation) (c : Core ρ)
    (x : Register) (r : Arithmetic.Flagged) :
    Footprint o? c (c.setFlagged x r) :=
  .of_plain o? c _ c.memory.faults c.events

theorem goTo_footprint {o? : Option Operation}
    (ho : o? ∈ Operation.flow.map some) (c : Core ρ) (a : Int) :
    Footprint o? c (c.goTo a) :=
  ⟨fun _ => rfl, fun _ _ => rfl, fun hn => absurd ho hn, fun _ _ => rfl,
    fun _ _ => rfl, fun _ _ _ => rfl, fun _ => rfl, fun _ => rfl,
    fun _ => ⟨rfl, rfl⟩, fun _ => rfl, rfl⟩

theorem skipIf_footprint {o? : Option Operation}
    (ho : o? ∈ Operation.flow.map some) (c : Core ρ) (condition : Bool) :
    Footprint o? c (c.skipIf condition) := by
  cases condition with
  | false => exact goTo_footprint ho c c.registers.pc
  | true => exact goTo_footprint ho c _

theorem readDelay_eq_done_iff {x : Register} :
    c.readDelay x = .done c' ↔
      ∃ b, Registers.byte? c.registers.delay = some b ∧ c' = c.set x b := by
  unfold readDelay
  split
  next b hb => simp [hb, eq_comm]
  next hb => simp [hb]

/-- The core after a wait, before the key is put into its register. -/
def waited (c : Core ρ) (x : Register) : Core ρ :=
  let w := c.keypad.wait c.arrivals
  { c with
    keypad := w.keypad
    arrivals := w.arrivals
    events := (w.applied.map .key).reverse ++ .waiting x :: c.events }

theorem waitKey_eq (c : Core ρ) (x : Register) :
    c.waitKey x =
      match (c.keypad.wait c.arrivals).key? with
      | some key => .done ((c.waited x).set x (UInt8.ofNat key.val))
      | none => .stalled (c.waited x) := rfl

theorem waitKey_eq_done_iff {x : Register} :
    c.waitKey x = .done c' ↔
      ∃ key, (c.keypad.wait c.arrivals).key? = some key ∧
        c' = (c.waited x).set x (UInt8.ofNat key.val) := by
  rw [waitKey_eq]
  cases hk : (c.keypad.wait c.arrivals).key? with
  | none => simp
  | some key => simp [eq_comm]

theorem waitKey_eq_stalled_iff {x : Register} :
    c.waitKey x = .stalled c' ↔
      (c.keypad.wait c.arrivals).key? = none ∧ c' = c.waited x := by
  rw [waitKey_eq]
  cases hk : (c.keypad.wait c.arrivals).key? with
  | none => simp [eq_comm]
  | some key => simp

/-- Every instruction that is done keeps to its footprint. -/
theorem execute_footprint [RandomSource ρ] {shiftUsesVy : Bool}
    {i : Instruction} (h : c.execute shiftUsesVy i = .done c') :
    Footprint (some i.operation) c c' := by
  cases i with
  | readDelay x =>
      obtain ⟨b, -, rfl⟩ := readDelay_eq_done_iff.mp h
      exact set_footprint _ c x b
  | waitKey x =>
      obtain ⟨key, -, rfl⟩ := waitKey_eq_done_iff.mp h
      constructor <;>
        simp [Instruction.operation, waited, set, mapRegisters, Registers.set]
  | draw x y n =>
      obtain ⟨frame, v, faults, events, hd⟩ := c.draw_eq (c.get x) (c.get y) n
      cases h
      rw [hd]
      constructor <;> simp [Instruction.operation]
  | storeDecimal x =>
      obtain ⟨memory, events, hs⟩ := c.storeDecimal_eq x
      cases h
      rw [hs]
      constructor <;> simp [Instruction.operation]
  | storeRegs x =>
      obtain ⟨memory, events, hs⟩ := c.storeRegs_eq x
      cases h
      rw [hs]
      constructor <;> simp [Instruction.operation]
  | loadRegs x =>
      obtain ⟨v, faults, events, hl⟩ := c.loadRegs_eq x
      cases h
      rw [hl]
      exact .of_plain _ c v faults events
  | call nnn =>
      cases h
      constructor <;>
        simp [Instruction.operation, Operation.flow, call, pushCall, goTo,
          mapRegisters]
  | ret =>
      cases h
      constructor <;>
        simp [Instruction.operation, Operation.flow, ret, popCall, goTo,
          mapRegisters]
  | random x kk =>
      cases h
      constructor <;>
        simp [Instruction.operation, loadRandom, set, mapRegisters,
          Registers.set]
  | clear =>
      cases h
      constructor <;> simp [Instruction.operation]
  | setDelay x | setSound x | loadIndex nnn | addIndex x | loadGlyph x =>
      cases h
      constructor <;> simp [Instruction.operation, mapRegisters]
  | skipEqByte _ _ | skipNeByte _ _ | skipEqReg _ _ | skipNeReg _ _ | skipKey _
  | skipNotKey _ =>
      cases h
      exact skipIf_footprint
        (by simp [Instruction.operation, Operation.flow]) c _
  | jump _ | jumpOffset _ =>
      cases h
      exact goTo_footprint
        (by simp [Instruction.operation, Operation.flow]) c _
  | system nnn =>
      cases h
      exact .of_plain _ c c.registers.v c.memory.faults _
  | addReg _ _ | sub _ _ | subReverse _ _ | shiftRight _ _ | shiftLeft _ _ =>
      cases h
      exact setFlagged_footprint _ c _ _
  | loadByte _ _ | loadReg _ _ | addByte _ _ | or _ _ | and _ _ | xor _ _ =>
      cases h
      exact set_footprint _ c _ _

end Core

end Chip8
