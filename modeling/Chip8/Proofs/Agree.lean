import Chip8.Proofs.Program

/-!
# Cores that a program cannot tell apart

Two cores agree if they differ at most in what lies on the call stack, in the
mark that the screen was touched, and in what was recorded and reported
(`Core.Agree`). Their random sources may be of different kinds, as long as they
yield the same bytes.

Every instruction keeps the agreement and ends in the same way on both sides
(`Core.Agree.execute`). The one that looks at the call stack is the return:
there the return addresses have to agree as well.
-/

namespace Chip8

/-- The bytes that a source yields, in order. -/
def RandomSource.stream {ρ : Type} [RandomSource ρ] : ρ → Nat → UInt8
  | r, 0 => (draw r).1
  | r, n + 1 => stream (draw r).2 n

/-- Two activities end in the same way, with related values. -/
inductive Outcome.Both {α β : Type} (R : α → β → Prop) :
    Outcome α → Outcome β → Prop
  | done {a b} : R a b → Both R (.done a) (.done b)
  | stalled {a b} : R a b → Both R (.stalled a) (.stalled b)
  | unfit {a b} : R a b → Both R (.unfit a) (.unfit b)

theorem Outcome.Both.of_done {α β : Type} {R : α → β → Prop} {a : α}
    {o : Outcome β} (h : Both R (.done a) o) : ∃ b, o = .done b ∧ R a b := by
  cases h with
  | done hab => exact ⟨_, rfl, hab⟩

namespace Memory

theorem read_fst_congr {m m' : Memory} (h : m.bytes = m'.bytes) (a : Int) :
    (m.read a).1 = (m'.read a).1 := by
  unfold read
  split
  · simp only [h]
  · rfl

theorem write_bytes_congr {m m' : Memory} (h : m.bytes = m'.bytes) (a : Int)
    (b : UInt8) :
    (m.write a b).bytes = (m'.write a b).bytes := by
  unfold write
  split
  · simp only [h]
  · exact h

end Memory

namespace Core

variable {ρ ρ' : Type} [RandomSource ρ] [RandomSource ρ']

/-- No program can tell two cores apart, but by its returns. -/
structure Agree (c : Core ρ) (d : Core ρ') : Prop where
  registers : c.registers = d.registers
  bytes : c.memory.bytes = d.memory.bytes
  frame : c.screen.frame = d.screen.frame
  keypad : c.keypad = d.keypad
  arrivals : c.arrivals = d.arrivals
  random : RandomSource.stream c.random = RandomSource.stream d.random

namespace Agree

variable {c : Core ρ} {d : Core ρ'}

theorem symm (h : c.Agree d) : d.Agree c :=
  ⟨h.registers.symm, h.bytes.symm, h.frame.symm, h.keypad.symm,
    h.arrivals.symm, h.random.symm⟩

theorem mapRegisters (h : c.Agree d) (f : Registers → Registers) :
    (c.mapRegisters f).Agree (d.mapRegisters f) :=
  { h with registers := congrArg f h.registers }

theorem get (h : c.Agree d) (x : Register) : c.get x = d.get x :=
  congrArg (·.get x) h.registers

theorem set (h : c.Agree d) (x : Register) (b : UInt8) :
    (c.set x b).Agree (d.set x b) :=
  h.mapRegisters _

theorem indexed (h : c.Agree d) (k : Nat) : c.indexed k = d.indexed k :=
  congrArg (·.index + (k : Int)) h.registers

/-! ## Access to memory and keys -/

theorem poll (h : c.Agree d) : c.poll.Agree d.poll :=
  { h with keypad := congrArg Keypad.poll h.keypad }

theorem readByte (h : c.Agree d) (a : Int) :
    (c.readByte a).1 = (d.readByte a).1 ∧
      (c.readByte a).2.Agree (d.readByte a).2 := by
  obtain ⟨_, _, hc⟩ := c.readByte_snd a
  obtain ⟨_, _, hd⟩ := d.readByte_snd a
  refine ⟨Memory.read_fst_congr h.bytes a, ?_⟩
  rw [hc, hd]
  exact { h with }

theorem readWord (h : c.Agree d) (a : Int) :
    (c.readWord a).1 = (d.readWord a).1 ∧
      (c.readWord a).2.Agree (d.readWord a).2 := by
  obtain ⟨hhigh, hrest⟩ := h.readByte a
  obtain ⟨hlow, hagree⟩ := hrest.readByte (a + 1)
  exact ⟨congrArg₂ Word.ofBytes hhigh hlow, hagree⟩

theorem writeByte (h : c.Agree d) (a : Int) (b : UInt8) :
    (c.writeByte a b).Agree (d.writeByte a b) := by
  have hbytes :
      (c.writeByte a b).memory.bytes = (d.writeByte a b).memory.bytes := by
    rw [memory_writeByte, memory_writeByte]
    exact Memory.write_bytes_congr h.bytes a b
  obtain ⟨_, _, hc⟩ := c.writeByte_eq a b
  obtain ⟨_, _, hd⟩ := d.writeByte_eq a b
  rw [hc, hd] at hbytes ⊢
  exact { h with bytes := hbytes }

theorem writeBytes (h : c.Agree d) (base : Int) (data : List UInt8) :
    (c.writeBytes base data).Agree (d.writeBytes base data) := by
  induction data generalizing c d base with
  | nil => exact h
  | cons b rest ih => exact ih (h.writeByte base b) (base + 1)

/-! ## Instructions -/

theorem storeDecimal (h : c.Agree d) (x : Register) :
    (c.storeDecimal x).Agree (d.storeDecimal x) := by
  simp only [Core.storeDecimal, h.indexed, h.get]
  exact ((h.writeByte _ _).writeByte _ _).writeByte _ _

theorem storeRegs (h : c.Agree d) (x : Register) :
    (c.storeRegs x).Agree (d.storeRegs x) := by
  refine List.foldl_rel h ?_
  intro r _ c d h
  rw [h.indexed, h.get]
  exact h.writeByte _ _

theorem loadReg (h : c.Agree d) (r : Register) :
    (c.loadReg r).Agree (d.loadReg r) := by
  obtain ⟨hbyte, hagree⟩ := h.readByte (c.indexed r.val)
  rw [h.indexed] at hbyte hagree
  simp only [Core.loadReg, h.indexed, hbyte]
  exact hagree.set r _

theorem loadRegs (h : c.Agree d) (x : Register) :
    (c.loadRegs x).Agree (d.loadRegs x) :=
  List.foldl_rel h fun r _ _ _ h => h.loadReg r

theorem drawRows (h : c.Agree d) (x y : UInt8) (s : Sprite.Drawing)
    (rows : List Nat) :
    (rows.foldl (drawRow x y) (c, s)).1.Agree
      (rows.foldl (drawRow x y) (d, s)).1 ∧
      (rows.foldl (drawRow x y) (c, s)).2 =
        (rows.foldl (drawRow x y) (d, s)).2 := by
  refine List.foldl_rel
      (r := fun (p : Core ρ × Sprite.Drawing) (q : Core ρ' × Sprite.Drawing) =>
    p.1.Agree q.1 ∧ p.2 = q.2) ⟨h, rfl⟩ ?_
  rintro r - ⟨c, s⟩ ⟨d, t⟩ ⟨h, rfl⟩
  obtain ⟨hbyte, hagree⟩ := h.readByte (c.indexed r)
  rw [h.indexed] at hbyte hagree
  simp only [drawRow, h.indexed, hbyte, and_true]
  exact hagree

theorem draw (h : c.Agree d) (x y : UInt8) (n : Nibble) :
    (c.draw x y n).Agree (d.draw x y n) := by
  obtain ⟨hagree, hdrawing⟩ :=
    h.drawRows x y ⟨c.screen.frame, false⟩ (List.range n.val)
  simp only [Core.draw, ← h.frame, hdrawing]
  refine set ?_ flagRegister _
  exact { hagree with frame := rfl }

theorem loadRandom (h : c.Agree d) (x : Register) (mask : UInt8) :
    (c.loadRandom x mask).Agree (d.loadRandom x mask) := by
  have hbyte :
      (RandomSource.draw c.random).1 = (RandomSource.draw d.random).1 :=
    congrFun h.random 0
  have hrest : RandomSource.stream (RandomSource.draw c.random).2 =
      RandomSource.stream (RandomSource.draw d.random).2 :=
    funext fun n => congrFun h.random (n + 1)
  simp only [Core.loadRandom, hbyte]
  refine set ?_ x _
  exact { h with random := hrest }

theorem call (h : c.Agree d) (nnn : Address) :
    (c.call nnn).Agree (d.call nnn) := by
  refine { h with registers := ?_ }
  simp only [Core.call, pushCall, goTo, Core.mapRegisters, CallStack.push,
    h.registers]

theorem ret (h : c.Agree d)
    (htop : c.stack.top c.registers.sp = d.stack.top d.registers.sp) :
    c.ret.Agree d.ret := by
  refine { h with registers := ?_ }
  rw [h.registers] at htop
  simp only [Core.ret, popCall, goTo, Core.mapRegisters, CallStack.pop,
    h.registers, htop]

theorem waited (h : c.Agree d) (x : Register) :
    (c.waited x).Agree (d.waited x) := by
  refine { h with keypad := ?_, arrivals := ?_ }
  · simp only [Core.waited, h.keypad, h.arrivals]
  · simp only [Core.waited, h.keypad, h.arrivals]

theorem waitKey (h : c.Agree d) (x : Register) :
    Outcome.Both Agree (c.waitKey x) (d.waitKey x) := by
  rw [waitKey_eq, waitKey_eq, h.keypad, h.arrivals]
  cases (d.keypad.wait d.arrivals).key? with
  | some key => exact .done ((h.waited x).set x _)
  | none => exact .stalled (h.waited x)

theorem readDelay (h : c.Agree d) (x : Register) :
    Outcome.Both Agree (c.readDelay x) (d.readDelay x) := by
  unfold Core.readDelay
  rw [h.registers]
  cases Registers.byte? d.registers.delay with
  | some b => exact .done (h.set x b)
  | none => exact .unfit h

/-- Cores that agree do so after every instruction, provided that a return
finds the same return address on both. -/
theorem execute (h : c.Agree d) (shiftUsesVy : Bool) (i : Instruction)
    (hret : i = .ret →
      c.stack.top c.registers.sp = d.stack.top d.registers.sp) :
    Outcome.Both Agree (c.execute shiftUsesVy i)
      (d.execute shiftUsesVy i) := by
  cases i with
  | ret => exact .done (h.ret (hret rfl))
  | call nnn => exact .done (h.call nnn)
  | readDelay x => exact h.readDelay x
  | waitKey x => exact h.waitKey x
  | random x kk => exact .done (h.loadRandom x kk)
  | storeDecimal x => exact .done (h.storeDecimal x)
  | storeRegs x => exact .done (h.storeRegs x)
  | loadRegs x => exact .done (h.loadRegs x)
  | clear => exact .done { h with frame := rfl }
  | system nnn => exact .done { h with }
  | draw x y n =>
      simp only [Core.execute, h.get]
      exact .done (h.draw _ _ n)
  | skipKey x | skipNotKey x =>
      simp only [Core.execute, keyHeld, h.keypad, h.get]
      exact .done (h.mapRegisters _)
  | shiftRight x y | shiftLeft x y =>
      simp only [Core.execute, shiftSource, h.get]
      exact .done (h.mapRegisters _)
  | _ =>
      -- the others only compute registers from registers
      simp only [Core.execute, h.get]
      exact .done (h.mapRegisters _)

theorem countTick (h : c.Agree d) : c.countTick.Agree d.countTick :=
  h.mapRegisters _

theorem endTick (h : c.Agree d) (due : Bool) :
    (c.endTick due).Agree (d.endTick due) := by
  cases due with
  | false => exact h.countTick
  | true =>
      refine { h with registers := ?_ }
      simp only [Core.endTick, if_true, endFrame, h.countTick.registers]

end Agree

end Core

/-! ## A tick on both sides -/

namespace Machine

variable {ρ ρ' δ δ' : Type} [RandomSource ρ] [RandomSource ρ']
  {m : Machine ρ δ} {k : Machine ρ' δ'}

theorem respond_core_agree (h : m.core.Agree k.core) (s : Stimulus) :
    (m.respond s).core.Agree (k.respond s).core := by
  cases s with
  | load name base data => exact { h.writeBytes base data with }
  | press key =>
    exact { h with keypad := congrArg (Keypad.press · key) h.keypad }
  | release key =>
    exact { h with keypad := congrArg (Keypad.release · key) h.keypad }
  | expect batches =>
    exact { h with arrivals := congrArg (· ++ batches) h.arrivals }

theorem fetch_agree (h : m.core.Agree k.core) :
    m.fetch.1 = k.fetch.1 ∧ m.fetched.Agree k.fetched := by
  have hpc : m.core.poll.registers.pc = k.core.poll.registers.pc :=
    congrArg Registers.pc h.registers
  obtain ⟨hword, hcore⟩ := h.poll.readWord k.core.poll.registers.pc
  simp only [fetched, fetch, hpc]
  exact ⟨hword, hcore.mapRegisters _⟩

theorem instruction?_agree (h : m.core.Agree k.core) :
    m.instruction? = k.instruction? :=
  congrArg Instruction.ofWord? (fetch_agree h).1

theorem operation?_agree (h : m.core.Agree k.core) :
    m.operation? = k.operation? :=
  congrArg (Option.map Instruction.operation) (instruction?_agree h)

theorem outcome_agree (h : m.core.Agree k.core) (hconfig : m.config = k.config)
    (hret : m.operation? = some .ret → m.core.stack.top m.core.registers.sp =
      k.core.stack.top k.core.registers.sp) :
    Outcome.Both Core.Agree m.outcome k.outcome := by
  unfold outcome
  rw [← instruction?_agree h, ← hconfig]
  cases hi : m.instruction? with
  | none => exact .done { (fetch_agree h).2 with }
  | some i =>
      refine (fetch_agree h).2.execute m.config.shiftUsesVy i ?_
      rintro rfl
      simpa using hret (by simp [operation?, hi, Instruction.operation])

theorem afterInstruction_agree (h : m.core.Agree k.core)
    (hconfig : m.config = k.config)
    (hret : m.operation? = some .ret → m.core.stack.top m.core.registers.sp =
      k.core.stack.top k.core.registers.sp)
    (ho : m.outcome = .done m.afterInstruction) :
    k.outcome = .done k.afterInstruction ∧
      m.afterInstruction.Agree k.afterInstruction := by
  have hboth := outcome_agree h hconfig hret
  rw [ho] at hboth
  obtain ⟨c, hc, hagree⟩ := hboth.of_done
  have hafter : k.afterInstruction = c := by
    rw [afterInstruction, hc]
    rfl
  rw [hafter]
  exact ⟨hc, hagree⟩

end Machine

end Chip8
