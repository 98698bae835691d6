import Chip8.Proofs.Nesting
import Chip8.Proofs.Program

/-!
# What a tick may change

An instruction names the general registers that it may write
(`Instruction.writes`) and how many bytes it may write from the index register
on (`Instruction.span`); all other registers and bytes keep their values, also
where operands coincide or a block reaches past the end of memory. Together
with `Core.Footprint` this gives `Machine.Entitled`: for each part of a
machine, the operations that may change it in a tick, and what the fetch, the
poll and the frame work do to it besides.

Over a script a byte stays as it is as long as no program is copied over it and
no store reaches it (`Script.byteAt_eq`). So the digit glyphs stay intact if
programs are loaded above them and stores go above them: addresses do not wrap.
-/

namespace Chip8

/-- The operations that access memory beyond the fetch. -/
def Operation.accessing : List Operation :=
  [storeDecimal, storeRegs, loadRegs, draw]

namespace Instruction

def writes (y : Register) : Instruction → Bool
  | loadByte x _ | addByte x _ | loadReg x _ | or x _ | and x _ | xor x _
  | random x _ | readDelay x | waitKey x => y == x
  | addReg x _ | sub x _ | subReverse x _ | shiftRight x _ | shiftLeft x _ =>
    y == x || y == flagRegister
  | draw _ _ _ => y == flagRegister
  | loadRegs x => y ≤ x
  | _ => false

/-- How many bytes an instruction may write, from the index register on. -/
def span : Instruction → Nat
  | storeDecimal _ => 3
  | storeRegs x => x.val + 1
  | _ => 0

theorem span_eq_zero {i : Instruction} (hd : i.operation ≠ .storeDecimal)
    (hr : i.operation ≠ .storeRegs) : i.span = 0 := by
  cases i <;> simp_all [span, operation]

end Instruction

namespace Core

variable {ρ : Type} {c c' : Core ρ}

theorem get_set_of_ne (c : Core ρ) {x y : Register} (h : y ≠ x) (b : UInt8) :
    (c.set x b).get y = c.get y := by
  rw [get, set, mapRegisters, Registers.get_set, if_neg (Ne.symm h)]
  rfl

theorem get_setFlagged (c : Core ρ) (x y : Register) (r : Arithmetic.Flagged) :
    (c.setFlagged x r).get y =
      if y = flagRegister then Arithmetic.flagByte r.flag
      else if y = x then r.value else c.get y := by
  rw [get, setFlagged, mapRegisters, Registers.setFlagged, Registers.get_set,
    Registers.get_set]
  simp only [eq_comm, get]

theorem get_setFlagged_of_ne (c : Core ρ) {x y : Register} (hx : y ≠ x)
    (hf : y ≠ flagRegister) (r : Arithmetic.Flagged) :
    (c.setFlagged x r).get y = c.get y := by
  rw [get_setFlagged, if_neg hf, if_neg hx]

theorem get_loadReg_of_ne (c : Core ρ) {r y : Register} (h : y ≠ r) :
    (c.loadReg r).get y = c.get y := by
  obtain ⟨_, _, hread⟩ := c.readByte_snd (c.indexed r.val)
  have hload : c.loadReg r =
      (c.readByte (c.indexed r.val)).2.set r
        (c.readByte (c.indexed r.val)).1 := rfl
  rw [hload, get_set_of_ne _ h, hread]
  rfl

theorem get_loadRegs_of_lt (c : Core ρ) {x y : Register} (h : x < y) :
    (c.loadRegs x).get y = c.get y := by
  unfold loadRegs
  refine List.foldlRecOn (motive := fun d : Core ρ => d.get y = c.get y) _ _
    rfl ?_
  intro d hd r hr
  have hle : r ≤ x := by simpa [registersUpTo] using hr
  rw [get_loadReg_of_ne d (Fin.ne_of_gt (Fin.lt_of_le_of_lt hle h)), hd]

theorem get_draw_of_ne (c : Core ρ) (x y : UInt8) (n : Nibble) {r : Register}
    (h : r ≠ flagRegister) : (c.draw x y n).get r = c.get r := by
  obtain ⟨faults, events, d, hrows⟩ :=
    c.drawRows_eq x y ⟨c.screen.frame, false⟩ (List.range n.val)
  rw [draw, hrows, get_set_of_ne _ h]
  rfl

theorem get_of_execute [RandomSource ρ] {shiftUsesVy : Bool} {i : Instruction}
    (h : c.execute shiftUsesVy i = .done c') {y : Register}
    (hy : i.writes y = false) :
    c'.get y = c.get y := by
  cases i with
  | loadByte x _ | addByte x _ | loadReg x _ | or x _ | and x _ | xor x _ =>
      cases h
      exact get_set_of_ne c (by simpa [Instruction.writes] using hy) _
  | random x kk =>
      cases h
      exact get_set_of_ne _ (by simpa [Instruction.writes] using hy) _
  | readDelay x =>
      obtain ⟨b, -, rfl⟩ := readDelay_eq_done_iff.mp h
      exact get_set_of_ne c (by simpa [Instruction.writes] using hy) _
  | waitKey x =>
      obtain ⟨key, -, rfl⟩ := waitKey_eq_done_iff.mp h
      exact get_set_of_ne _ (by simpa [Instruction.writes] using hy) _
  | addReg x _ | sub x _ | subReverse x _ | shiftRight x _ | shiftLeft x _ =>
      cases h
      obtain ⟨hx, hf⟩ : y ≠ x ∧ y ≠ flagRegister := by
        simpa [Instruction.writes] using hy
      exact get_setFlagged_of_ne c hx hf _
  | draw x z n =>
      cases h
      exact get_draw_of_ne c _ _ n (by simpa [Instruction.writes] using hy)
  | loadRegs x =>
      cases h
      exact get_loadRegs_of_lt c (by simpa [Instruction.writes] using hy)
  | storeDecimal x =>
      obtain ⟨_, _, hs⟩ := c.storeDecimal_eq x
      cases h
      rw [hs]
      rfl
  | storeRegs x =>
      obtain ⟨_, _, hs⟩ := c.storeRegs_eq x
      cases h
      rw [hs]
      rfl
  | skipEqByte _ _ | skipNeByte _ _ | skipEqReg _ _ | skipNeReg _ _ | skipKey _
  | skipNotKey _ =>
      cases h
      unfold skipIf Registers.skipIf
      dsimp only [mapRegisters]
      split <;> rfl
  | _ =>
      cases h
      rfl

theorem byteAt_writeByte_of_ne (c : Core ρ) {z : Int} {a : Address}
    (h : z ≠ a.val) (b : UInt8) :
    (c.writeByte z b).memory.byteAt a = c.memory.byteAt a := by
  rw [memory_writeByte, Memory.byteAt_write, if_neg h]

theorem byteAt_storeDecimal (c : Core ρ) (x : Register) {a : Address}
    (h : ∀ k : Nat, k < 3 → c.indexed k ≠ a.val) :
    (c.storeDecimal x).memory.byteAt a = c.memory.byteAt a := by
  rw [storeDecimal, byteAt_writeByte_of_ne _ (h 2 (by decide)),
    byteAt_writeByte_of_ne _ (h 1 (by decide)),
    byteAt_writeByte_of_ne _ (h 0 (by decide))]

theorem byteAt_storeRegs (c : Core ρ) (x : Register) {a : Address}
    (h : ∀ k : Nat, k ≤ x.val → c.indexed k ≠ a.val) :
    (c.storeRegs x).memory.byteAt a = c.memory.byteAt a := by
  unfold storeRegs
  -- the place of each register is found through the index register, which
  -- stays
  refine (List.foldlRecOn
    (motive := fun d : Core ρ => d.registers = c.registers ∧
    d.memory.byteAt a = c.memory.byteAt a) _ _ ⟨rfl, rfl⟩ ?_).2
  rintro d ⟨hregisters, hbyte⟩ r hr
  have hle : r ≤ x := by simpa [registersUpTo] using hr
  have hne : d.indexed r.val ≠ a.val := by
    rw [indexed, hregisters]
    exact h r.val hle
  obtain ⟨_, _, hwrite⟩ := d.writeByte_eq (d.indexed r.val) (d.get r)
  exact ⟨by rw [hwrite, hregisters],
    (byteAt_writeByte_of_ne d hne _).trans hbyte⟩

theorem byteAt_of_execute [RandomSource ρ] {shiftUsesVy : Bool}
    {i : Instruction} (h : c.execute shiftUsesVy i = .done c') {a : Address}
    (ha : ¬ (c.registers.index ≤ a.val ∧
      (a.val : Int) < c.registers.index + i.span)) :
    c'.memory.byteAt a = c.memory.byteAt a := by
  by_cases hd : i.operation = .storeDecimal
  · cases i <;> simp only [Instruction.operation, reduceCtorEq] at hd
    cases h
    refine byteAt_storeDecimal c _ fun k hk heq => ha ?_
    simp only [indexed, Instruction.span] at heq ⊢
    omega
  · by_cases hr : i.operation = .storeRegs
    · cases i <;> simp only [Instruction.operation, reduceCtorEq] at hr
      cases h
      refine byteAt_storeRegs c _ fun k hk heq => ha ?_
      simp only [indexed, Instruction.span] at heq ⊢
      omega
    · rw [Memory.byteAt, Memory.byteAt,
        (execute_footprint h).bytes (by simpa using hd) (by simpa using hr)]

theorem faults_of_execute [RandomSource ρ] {shiftUsesVy : Bool}
    {i : Instruction} (h : c.execute shiftUsesVy i = .done c')
    (hi : i.operation ∉ Operation.accessing) :
    c'.memory.faults = c.memory.faults := by
  cases i with
  | storeDecimal _ | storeRegs _ | loadRegs _ | draw _ _ _ =>
      exact absurd (by simp [Operation.accessing, Instruction.operation]) hi
  | readDelay x =>
      obtain ⟨b, -, rfl⟩ := readDelay_eq_done_iff.mp h
      rfl
  | waitKey x =>
      obtain ⟨key, -, rfl⟩ := waitKey_eq_done_iff.mp h
      rfl
  | _ =>
      cases h
      rfl

theorem random_of_execute [RandomSource ρ] {shiftUsesVy : Bool}
    {i : Instruction} (h : c.execute shiftUsesVy i = .done c') :
    c'.random = if i.operation = .random then (RandomSource.draw c.random).2
      else c.random := by
  by_cases hi : i.operation = .random
  · cases i <;> simp only [Instruction.operation, reduceCtorEq] at hi
    cases h
    rfl
  · rw [if_neg hi, (execute_footprint h).random (by simpa using hi)]

/-- A call fills the slot that the stack pointer then selects, and no other. -/
theorem slots_of_execute [RandomSource ρ] {shiftUsesVy : Bool}
    {i : Instruction} (h : c.execute shiftUsesVy i = .done c') {j : Fin 16}
    (hj : i.operation = .call → j ≠ CallStack.slot c'.registers.sp) :
    c'.stack.slots[j] = c.stack.slots[j] := by
  by_cases hi : i.operation = .call
  · obtain ⟨nnn, rfl⟩ := i.operation_eq_call_iff.mp hi
    cases h
    have hne := hj hi
    simp only [call, pushCall, goTo, mapRegisters, CallStack.push] at hne ⊢
    exact Vector.getElem_set_ne _ _ fun heq => hne (Fin.ext heq.symm)
  · rw [(execute_footprint h).stack (by simpa using hi)]

/-- What is the same after a word was dealt with, by its instruction: the
footprint of the operation, and what depends on the operands. -/
structure Effect [RandomSource ρ] (i? : Option Instruction) (c c' : Core ρ) :
    Prop extends Footprint (i?.map Instruction.operation) c c' where
  general (y : Register) :
    (∀ i, i? = some i → i.writes y = false) → c'.get y = c.get y
  byte (a : Address) :
    (∀ i, i? = some i → ¬ (c.registers.index ≤ a.val ∧
      (a.val : Int) < c.registers.index + i.span)) →
      c'.memory.byteAt a = c.memory.byteAt a
  faults : i?.map Instruction.operation ∉ Operation.accessing.map some →
    c'.memory.faults = c.memory.faults
  drawn : c'.random =
    if i?.map Instruction.operation = some .random then
      (RandomSource.draw c.random).2
    else c.random
  slots (j : Fin 16) :
    (i?.map Instruction.operation = some .call →
      j ≠ CallStack.slot c'.registers.sp) →
      c'.stack.slots[j] = c.stack.slots[j]
  idle : i?.map Instruction.operation = none ∨
    i?.map Instruction.operation = some .system →
    c' = { c with events := c'.events }

theorem execute_effect [RandomSource ρ] {shiftUsesVy : Bool} {i : Instruction}
    (h : c.execute shiftUsesVy i = .done c') : Effect (some i) c c' where
  toFootprint := execute_footprint h
  general _ hy := get_of_execute h (hy i rfl)
  byte _ ha := byteAt_of_execute h (ha i rfl)
  faults hi := faults_of_execute h (by simpa using hi)
  drawn := by simpa using random_of_execute h
  slots _ hj := slots_of_execute h fun hi => hj (by simp [hi])
  idle hi := by
    have hsystem : i.operation = .system := by simpa using hi
    cases i <;> simp only [Instruction.operation, reduceCtorEq] at hsystem
    cases h
    rfl

theorem report_effect [RandomSource ρ] (c : Core ρ) (e : Event) :
    Effect none c (c.report e) where
  toFootprint := .of_plain none c c.registers.v c.memory.faults (e :: c.events)
  general _ _ := rfl
  byte _ _ := rfl
  faults _ := rfl
  drawn := rfl
  slots _ _ := rfl
  idle _ := rfl

end Core

def Stimulus.Spares (a : Address) : Stimulus → Prop
  | .load _ base data => ¬ (base ≤ a.val ∧ (a.val : Int) < base + data.length)
  | .press _ | .release _ | .expect _ => True

namespace Machine

variable {ρ δ : Type}

def fetchReads (m : Machine ρ δ) : Memory :=
  ((m.core.memory.read m.core.registers.pc).2.read (m.core.registers.pc + 1)).2

theorem fetched_memory (m : Machine ρ δ) :
    m.fetched.memory = m.fetchReads := by
  have hread (c : Core ρ) (a : Int) :
      (c.readByte a).2.memory = (c.memory.read a).2 := by
    obtain ⟨_, h⟩ :=
      Core.reportFault_eq { c with memory := (c.memory.read a).2 } .read a
    exact congrArg Core.memory h
  have hword : m.fetched.memory =
      ((m.core.poll.readByte m.core.registers.pc).2.readByte
        (m.core.registers.pc + 1)).2.memory := rfl
  rw [hword, hread, hread]
  rfl

theorem read_bytes (m : Memory) (a : Int) : (m.read a).2.bytes = m.bytes := by
  obtain ⟨_, h⟩ := m.read_snd a
  rw [h]

theorem fetchReads_eq (m : Machine ρ δ) :
    m.fetchReads = { m.core.memory with faults := m.fetchReads.faults } := by
  have h : m.fetchReads.bytes = m.core.memory.bytes := by
    rw [fetchReads, read_bytes, read_bytes]
  exact congrArg (Memory.mk · m.fetchReads.faults) h

variable [RandomSource ρ]

/-- What a tick that took `m` to `m'` did not change, and how it changed what
every tick changes. Frame work is done `m.framesDue` times. -/
structure Entitled (m m' : Machine ρ δ) : Prop where
  config : m'.config = m.config
  meter : m'.meter = m.meter
  trace : m.trace.on = false → m'.trace = m.trace
  divider : m'.divider = m.divider.advance 1
  unknownCount : m'.unknownCount =
    if m.instruction? = none then m.unknownCount + 1 else m.unknownCount
  cycles : m'.core.registers.cycles = m.core.registers.cycles + 1
  general (y : Register) :
    (∀ i, m.instruction? = some i → i.writes y = false) →
    m'.core.registers.get y = m.core.registers.get y
  index : m.operation? ≠ some .loadIndex → m.operation? ≠ some .addIndex →
    m.operation? ≠ some .loadGlyph →
      m'.core.registers.index = m.core.registers.index
  pc : m.operation? ∉ Operation.flow.map some →
    m'.core.registers.pc = (m.core.registers.pc + 2) % 65536
  sp : m.operation? ≠ some .call → m.operation? ≠ some .ret →
    m'.core.registers.sp = m.core.registers.sp
  slots (j : Fin 16) :
    (m.operation? = some .call → j ≠ CallStack.slot m'.core.registers.sp) →
      m'.core.stack.slots[j] = m.core.stack.slots[j]
  delay : m.operation? ≠ some .setDelay →
    m'.core.registers.delay = countDown^[m.framesDue] m.core.registers.delay
  sound : m.operation? ≠ some .setSound →
    m'.core.registers.sound = countDown^[m.framesDue] m.core.registers.sound
  bytes (a : Address) :
    (∀ i, m.instruction? = some i → ¬ (m.core.registers.index ≤ a.val ∧
      (a.val : Int) < m.core.registers.index + i.span)) →
      m'.core.memory.byteAt a = m.core.memory.byteAt a
  faults : m.operation? ∉ Operation.accessing.map some →
    m'.core.memory.faults = m.fetchReads.faults
  screen : m.operation? ≠ some .clear → m.operation? ≠ some .draw →
    m'.core.screen =
      ⟨m.core.screen.frame, m.core.screen.dirty && m.framesDue == 0⟩
  keys : m.operation? ≠ some .waitKey →
    m'.core.keypad = m.core.keypad.poll ∧ m'.core.arrivals = m.core.arrivals
  random : m'.core.random =
    if m.operation? = some .random then (RandomSource.draw m.core.random).2
    else m.core.random
  /-- Devices are used by frame work only. -/
  devices : m.framesDue = 0 → m'.devices = m.devices
  /-- A word that is no instruction or calls host code changes nothing else. -/
  idle : m.operation? = none ∨ m.operation? = some .system →
    m'.core =
      { m.core with
        registers := { m.core.registers with
          pc := (m.core.registers.pc + 2) % 65536
          delay := countDown^[m.framesDue] m.core.registers.delay
          sound := countDown^[m.framesDue] m.core.registers.sound
          cycles := m.core.registers.cycles + 1 }
        memory := { m.core.memory with faults := m.fetchReads.faults }
        screen :=
          ⟨m.core.screen.frame, m.core.screen.dirty && m.framesDue == 0⟩
        keypad := m.core.keypad.poll
        events := m'.core.events }

omit [RandomSource ρ] in
/-- What the fetch leaves: the keys polled, the word read and the program
counter moved on. -/
theorem fetched_core (m : Machine ρ δ) :
    ∃ events, m.fetched =
      { m.core with
        registers := { m.core.registers with
          pc := (m.core.registers.pc + 2) % 65536 }
        memory := { m.core.memory with faults := m.fetchReads.faults }
        keypad := m.core.keypad.poll
        events } := by
  obtain ⟨faults, events, h⟩ := m.fetched_eq
  have hmemory : ({ m.core.memory with faults } : Memory) = m.fetchReads := by
    rw [← fetched_memory, h]
  refine ⟨events, ?_⟩
  rw [h, hmemory, ← fetchReads_eq]
  rfl

theorem effect_of_outcome {m : Machine ρ δ}
    (ho : m.outcome = .done m.afterInstruction) :
    Core.Effect m.instruction? m.fetched m.afterInstruction := by
  cases hi : m.instruction? with
  | none =>
      rw [afterInstruction_of_none hi]
      exact Core.report_effect _ _
  | some i => exact Core.execute_effect (execute_of_outcome ho hi)

omit [RandomSource ρ] in
theorem withOutcome_eq (m : Machine ρ δ) (c : Core ρ) :
    ∃ trace, (m.trace.on = false → trace = m.trace) ∧
      m.withOutcome c =
        { m with
          core := c
          unknownCount :=
            if m.instruction? = none then m.unknownCount + 1
              else m.unknownCount
          trace } := by
  unfold withOutcome
  cases hi : m.instruction? with
  | none => exact ⟨m.trace, fun _ => rfl, rfl⟩
  | some i => exact ⟨_, fun hoff => if_neg (by simp [hoff]), rfl⟩

/-- A completed tick changes no more than its operation is entitled to. -/
theorem entitled_of_step [Devices δ] {m m' : Machine ρ δ}
    {i? : Option Instruction} (h : m.step = .done i? m') : Entitled m m' := by
  obtain ⟨ho, -, hm'⟩ := step_eq_done_iff.mp h
  have he := effect_of_outcome ho
  obtain ⟨events, hf⟩ := m.fetched_core
  obtain ⟨devices, hdevices, hfinish⟩ :=
    finishTick_eq_framesDue (m.withOutcome m.afterInstruction)
  obtain ⟨trace, htrace, hwith⟩ := m.withOutcome_eq m.afterInstruction
  rw [hf] at he
  rw [hwith] at hdevices hfinish hm'
  rw [hfinish, Core.endFrame_iterate] at hm'
  subst hm'
  exact
    { config := rfl
      meter := rfl
      trace := htrace
      divider := rfl
      unknownCount := rfl
      cycles := congrArg (· + 1) he.cycles
      general := he.general
      index := he.index
      pc := he.pc
      sp := he.sp
      slots := he.slots
      delay := fun h => congrArg countDown^[m.framesDue] (he.delay h)
      sound := fun h => congrArg countDown^[m.framesDue] (he.sound h)
      bytes := he.byte
      faults := he.faults
      screen := fun hc hd =>
        congrArg
        (fun s : Screen => Screen.mk s.frame (s.dirty && m.framesDue == 0))
          (he.screen hc hd)
      keys := he.keypad
      random := he.drawn
      devices := hdevices
      idle := fun h => by
        rw [he.idle h]
        rfl }

end Machine

/-! ## Bytes that nobody writes -/

theorem Memory.getElem?_eq_get {bytes : List UInt8}
    (h : bytes.toArray.size = 4096) (a : Address) :
    bytes[a.val]? = some ((⟨bytes.toArray, h⟩ : Vector UInt8 4096).get a) := by
  have hlt : a.val < bytes.length := by
    rw [← List.size_toArray, h]
    exact a.isLt
  rw [List.getElem?_eq_getElem hlt]
  rfl

theorem Memory.powerOn_byteAt {a : Address} (h : a.val < 0x50) :
    Glyph.bytes[a.val]? = some (powerOn.byteAt a) := by
  have hlength : Glyph.bytes.length = 0x50 := by decide
  rw [← List.getElem?_append_left (by omega)]
  exact getElem?_eq_get _ a

namespace Machine

variable {ρ δ : Type}

theorem byteAt_respond (m : Machine ρ δ) {s : Stimulus} {a : Address}
    (h : s.Spares a) :
    (m.respond s).core.memory.byteAt a = m.core.memory.byteAt a := by
  cases s with
  | load name base data =>
      rw [respond, memory_load, Memory.byteAt_load]
      split
      · rfl
      · have hend : data.length ≤ ((a.val : Int) - base).toNat := by
          simp only [Stimulus.Spares] at h
          omega
        rw [List.getElem?_eq_none hend, Option.getD_none]
  | press key | release key | expect batches => rfl

variable [RandomSource ρ] [Devices δ]

theorem Script.byteAt_eq {m₀ m : Machine ρ δ} {acts : List Act}
    {ms : List (Machine ρ δ)} (h : Script m₀ acts ms m) {a : Address}
    (hacts : ∀ s, Act.outside s ∈ acts → s.Spares a)
    (hms : ∀ k ∈ ms, ∀ i, k.instruction? = some i →
      ¬ (k.core.registers.index ≤ a.val ∧
        (a.val : Int) < k.core.registers.index + i.span)) :
    m.core.memory.byteAt a = m₀.core.memory.byteAt a := by
  induction h with
  | start => rfl
  | outside s _ ih =>
      rw [byteAt_respond _ (hacts s (by simp))]
      exact ih (fun s hs => hacts s (List.mem_append_left _ hs)) hms
  | @tick acts ms m m' i? _ hstep ih =>
      rw [(entitled_of_step hstep).bytes a (hms m (by simp))]
      exact ih (fun s hs => hacts s (List.mem_append_left _ hs))
        (fun k hk => hms k (List.mem_append_left _ hk))

/-- A completed tick changes no more than its operation is entitled to. So the
digit glyphs are intact after a script from power-on that copies nothing over
them and executes its stores with the index register above them. -/
theorem entitled_and_glyphs_intact :
    (∀ {m m' : Machine ρ δ} {i?}, m.step = .done i? m' → Entitled m m') ∧
      ∀ {config : Config} {random : ρ} {devices : δ} {acts ms m},
        Script (powerOn config random devices) acts ms m →
        (∀ s, Act.outside s ∈ acts → ∀ a : Address,
          a.val < 0x50 → s.Spares a) →
        (∀ k ∈ ms, k.operation? = some .storeDecimal ∨
          k.operation? = some .storeRegs → 0x50 ≤ k.core.registers.index) →
        ∀ a : Address, a.val < 0x50 →
          Glyph.bytes[a.val]? = some (m.core.memory.byteAt a) := by
  refine ⟨entitled_of_step, ?_⟩
  intro config random devices acts ms m h hacts hms a ha
  have hbyte : m.core.memory.byteAt a = Memory.powerOn.byteAt a := by
    refine h.byteAt_eq (fun s hs => hacts s hs a ha) ?_
    intro k hk i hi hspan
    by_cases hstore : i.operation = .storeDecimal ∨ i.operation = .storeRegs
    · have habove := hms k hk (by simpa [operation?, hi] using hstore)
      omega
    · obtain ⟨hdecimal, hregs⟩ := not_or.mp hstore
      rw [Instruction.span_eq_zero hdecimal hregs] at hspan
      omega
  rw [hbyte]
  exact Memory.powerOn_byteAt ha

/-- The digits of a register stored right above the glyphs. -/
theorem glyphs_below_store :
    let m₀ : Machine CycledBytes (List Signal) := powerOn {} ⟨[], []⟩ []
    let load := Stimulus.load "edge" 512 [0xA0, 0x50, 0xF0, 0x33]
    let k₀ := m₀.respond load
    let k₁ := k₀.next
    let m := k₁.next
    Script m₀ [.outside load, .tick, .tick] [k₀, k₁] m ∧
      k₁.operation? = some .storeDecimal ∧ Entitled k₁ m ∧
      ∀ a : Address, a.val < 0x50 →
        Glyph.bytes[a.val]? = some (m.core.memory.byteAt a) := by
  intro m₀ load k₀ k₁ m
  have hrun : k₀.completes ∧ k₁.completes ∧
      k₁.operation? = some .storeDecimal ∧
        k₀.operation? = some .loadIndex ∧ k₁.core.registers.index = 0x50 := by
    decide +kernel
  obtain ⟨h₀, h₁, hstore, hload, hindex⟩ := hrun
  have h : Script m₀ [.outside load, .tick, .tick] [k₀, k₁] m :=
    ((Script.start.outside load).next h₀).next h₁
  obtain ⟨i?, hstep⟩ := step_of_completes h₁
  refine ⟨h, hstore, entitled_and_glyphs_intact.1 hstep, ?_⟩
  refine entitled_and_glyphs_intact.2 h ?_ ?_
  · intro s hs a ha
    obtain rfl : s = load := by simpa using hs
    simp only [load, Stimulus.Spares]
    omega
  · intro k hk hop
    rcases List.mem_cons.mp hk with rfl | hk
    · simp [hload] at hop
    · obtain rfl := List.mem_singleton.mp hk
      omega

end Machine

end Chip8
