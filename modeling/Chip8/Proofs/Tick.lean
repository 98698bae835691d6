import Chip8.Machine
import Chip8.Proofs.Divider
import Chip8.Proofs.Range
import Mathlib.Logic.Function.Iterate

/-!
# What a tick does

`Machine.outcome` is what the fetched word leads to, before the tick is counted
and before any frame work. With it a tick splits into three parts that are
stated by themselves: the fetch (`fetched_eq`), the instruction (`outcome`, for
which `Core.Footprint` speaks) and the end of the tick (`finishTick_eq`).

While the frame divider counts within its period, a tick does the frame work
once or not at all, and `FrameDivider.due` tells which. `Machine.Done` collects
what is then true of a tick that was completed; runs are reasoned about through
it and never through `Machine.step` itself.
-/

namespace Chip8

def countDown (z : Int) : Int :=
  if 0 < z then z - 1 else z

theorem countDown_range {z : Int} (h : 0 ≤ z ∧ z < 256) :
    0 ≤ countDown z ∧ countDown z < 256 := by
  unfold countDown
  split <;> omega

def Outcome.value {α : Type} : Outcome α → α
  | .done a | .stalled a | .unfit a => a

namespace Core

variable {ρ : Type}

def countTick (c : Core ρ) : Core ρ :=
  c.mapRegisters fun r => { r with cycles := r.cycles + 1 }

def endFrame (c : Core ρ) : Core ρ :=
  { c with
    registers := { c.registers with
      delay := countDown c.registers.delay
      sound := countDown c.registers.sound }
    screen := { c.screen with dirty := false } }

theorem endFrame_iterate (n : Nat) (c : Core ρ) :
    endFrame^[n] c =
      { c with
        registers := { c.registers with
          delay := countDown^[n] c.registers.delay
          sound := countDown^[n] c.registers.sound }
        screen := { c.screen with dirty := c.screen.dirty && n == 0 } } := by
  induction n generalizing c with
  | zero => simp
  | succ n ih => simp [ih, endFrame]

/-- The core at the end of a tick, with or without frame work. -/
def endTick (due : Bool) (c : Core ρ) : Core ρ :=
  if due then c.countTick.endFrame else c.countTick

def showSignals (c : Core ρ) : List Signal :=
  if c.screen.dirty then [.present c.screen.frame] else []

def toneSignals (c : Core ρ) : List Signal :=
  if 0 < c.registers.sound then
    if c.registers.sound = 1 then [.startTone, .stopTone] else [.startTone]
  else []

def frameSignals (c : Core ρ) : List Signal :=
  c.showSignals ++ c.toneSignals

theorem endTick_inRange {c : Core ρ} (h : c.registers.InRange) (due : Bool) :
    (c.endTick due).registers.InRange := by
  cases due with
  | false => exact ⟨h.index, h.pc, h.sp, h.delay, h.sound⟩
  | true =>
    exact ⟨h.index, h.pc, h.sp, countDown_range h.delay,
      countDown_range h.sound⟩

end Core

namespace Machine

variable {ρ δ : Type} (m : Machine ρ δ)

/-! ## The parts of a tick -/

def instruction? : Option Instruction :=
  Instruction.ofWord? m.fetch.1

/-- The operation that the next tick executes, if any. -/
def operation? : Option Operation :=
  m.instruction?.map Instruction.operation

/-- The core with the key events applied, the word fetched and the program
counter past it. -/
def fetched : Core ρ :=
  m.fetch.2.core

theorem fetched_eq :
    ∃ faults events, m.fetched =
      { m.core with
        registers := { m.core.registers with
          pc := Registers.wrap16 (m.core.registers.pc + 2) }
        memory := { m.core.memory with faults }
        keypad := m.core.keypad.poll
        events } := by
  obtain ⟨faults, events, h⟩ := m.core.poll.readWord_snd m.core.registers.pc
  have hfetch : m.fetched =
      (m.core.poll.readWord m.core.registers.pc).2.goTo
        (Registers.wrap16 (m.core.registers.pc + 2)) := rfl
  exact ⟨faults, events, by rw [hfetch, h]; rfl⟩

@[simp] theorem fetched_pc :
    m.fetched.registers.pc = Registers.wrap16 (m.core.registers.pc + 2) := by
  obtain ⟨_, _, h⟩ := m.fetched_eq
  rw [h]

@[simp] theorem fetched_sp : m.fetched.registers.sp = m.core.registers.sp := by
  obtain ⟨_, _, h⟩ := m.fetched_eq
  rw [h]

@[simp] theorem fetched_sound :
    m.fetched.registers.sound = m.core.registers.sound := by
  obtain ⟨_, _, h⟩ := m.fetched_eq
  rw [h]

@[simp] theorem fetched_get (x : Register) :
    m.fetched.registers.get x = m.core.registers.get x := by
  obtain ⟨_, _, h⟩ := m.fetched_eq
  rw [h]
  rfl

@[simp] theorem fetched_stack : m.fetched.stack = m.core.stack := by
  obtain ⟨_, _, h⟩ := m.fetched_eq
  rw [h]

@[simp] theorem fetched_screen : m.fetched.screen = m.core.screen := by
  obtain ⟨_, _, h⟩ := m.fetched_eq
  rw [h]

@[simp] theorem fetched_keypad : m.fetched.keypad = m.core.keypad.poll := by
  obtain ⟨_, _, h⟩ := m.fetched_eq
  rw [h]

@[simp] theorem fetched_arrivals : m.fetched.arrivals = m.core.arrivals := by
  obtain ⟨_, _, h⟩ := m.fetched_eq
  rw [h]

structure InRange (m : Machine ρ δ) : Prop where
  registers : m.core.registers.InRange
  divider : m.divider.InRange

theorem powerOn_inRange (config : Config) (random : ρ) (devices : δ) :
    (powerOn config random devices).InRange :=
  ⟨Registers.powerOn_inRange, FrameDivider.start_inRange _ _⟩

theorem fetched_inRange {m : Machine ρ δ} (h : m.InRange) :
    m.fetched.registers.InRange := by
  obtain ⟨_, _, hf⟩ := m.fetched_eq
  rw [hf]
  exact ⟨h.registers.index, Registers.wrap16_range _, h.registers.sp,
    h.registers.delay, h.registers.sound⟩

/-- What the fetched word leads to: the effect of an instruction, or a report
if it is none. -/
def outcome [RandomSource ρ] : Outcome (Core ρ) :=
  match m.instruction? with
  | none =>
    .done (m.fetched.report (.unknown ⟨m.fetch.1, some m.core.registers.pc⟩))
  | some i => m.fetched.execute m.config.shiftUsesVy i

/-- The core once the fetched word is dealt with. -/
def afterInstruction [RandomSource ρ] : Core ρ :=
  m.outcome.value

/-- The machine that is left when its fetched word led to the given core. -/
def withOutcome (c : Core ρ) : Machine ρ δ :=
  match m.instruction? with
  | none => { m with core := c, unknownCount := m.unknownCount + 1 }
  | some i =>
    { m with
      core := c
      trace :=
        m.trace.note m.core.registers.pc m.fetch.1 i m.fetched.registers }

@[simp] theorem withOutcome_core (c : Core ρ) :
    (m.withOutcome c).core = c := by
  unfold withOutcome
  split <;> rfl

@[simp] theorem withOutcome_devices (c : Core ρ) :
    (m.withOutcome c).devices = m.devices := by
  unfold withOutcome
  split <;> rfl

@[simp] theorem withOutcome_divider (c : Core ρ) :
    (m.withOutcome c).divider = m.divider := by
  unfold withOutcome
  split <;> rfl

@[simp] theorem withOutcome_config (c : Core ρ) :
    (m.withOutcome c).config = m.config := by
  unfold withOutcome
  split <;> rfl

/-- The signals that the next tick sends, in order. -/
def sent [RandomSource ρ] : List Signal :=
  if m.divider.due then m.afterInstruction.frameSignals else []

theorem step_eq [RandomSource ρ] [Devices δ] :
    m.step =
      match m.outcome with
      | .done c => .done m.instruction? (m.withOutcome c).finishTick
      | .stalled c => .stalled (m.withOutcome c)
      | .unfit c => .unfit (m.withOutcome c) := by
  cases hi : m.instruction? with
  | none =>
      have hw : Instruction.ofWord? m.fetch.1 = none := hi
      simp only [step, outcome, withOutcome, hi, hw]
      rfl
  | some i =>
      have hw : Instruction.ofWord? m.fetch.1 = some i := hi
      simp only [step, outcome, withOutcome, hi, hw]
      rfl

/-! ## The end of a tick -/

theorem handOver_eq [Devices δ] :
    m.handOver =
      { m with
        core := { m.core with screen := { m.core.screen with dirty := false } }
        devices := m.core.showSignals.foldl
          (fun d s => Devices.receive s d) m.devices } := by
  unfold handOver Core.showSignals
  cases hd : m.core.screen.dirty with
  | false =>
      have hs : { m.core.screen with dirty := false } = m.core.screen := by
        rw [← hd]
      simp [hs]
  | true => simp [send, mapCore]

theorem decaySound_eq [Devices δ] :
    m.decaySound =
      { m with
        core := m.core.mapRegisters fun r =>
          { r with sound := countDown r.sound }
        devices := m.core.toneSignals.foldl
          (fun d s => Devices.receive s d) m.devices } := by
  unfold decaySound Core.toneSignals countDown
  by_cases hs : 0 < m.core.registers.sound
  · by_cases h₁ : m.core.registers.sound = 1
    · simp [h₁, send, mapRegisters, mapCore, Core.mapRegisters]
    · simp [hs, h₁, send, mapRegisters, mapCore, Core.mapRegisters]
  · simp [hs, Core.mapRegisters]

theorem frameWork_eq [Devices δ] :
    m.frameWork =
      { m with
        core := m.core.endFrame
        devices := m.core.frameSignals.foldl
          (fun d s => Devices.receive s d) m.devices } := by
  rw [frameWork, decaySound_eq, decayDelay, handOver_eq, Core.frameSignals,
    List.foldl_append]
  by_cases hd : 0 < m.core.registers.delay
  · simp [mapRegisters, mapCore, Core.mapRegisters, Core.endFrame,
      Core.toneSignals, countDown, hd]
  · simp [mapRegisters, mapCore, Core.mapRegisters, Core.endFrame,
      Core.toneSignals, countDown, hd]

def framesDue : Nat :=
  (m.divider.elapsed 1).toNat

theorem frameWorks_eq [Devices δ] (n : Nat) :
    ∃ devices, (n = 0 → devices = m.devices) ∧
      frameWorks n m =
        { m with core := Core.endFrame^[n] m.core, devices } := by
  induction n generalizing m with
  | zero => exact ⟨m.devices, fun _ => rfl, rfl⟩
  | succ n ih =>
      obtain ⟨devices, -, h⟩ := ih m.frameWork
      refine ⟨devices, nofun, ?_⟩
      rw [frameWorks, h, frameWork_eq, Function.iterate_succ_apply]

theorem finishTick_eq_framesDue [Devices δ] :
    ∃ devices, (m.framesDue = 0 → devices = m.devices) ∧
      m.finishTick =
        { m with
          core := Core.endFrame^[m.framesDue] m.core.countTick
          devices
          divider := m.divider.advance 1 } :=
  frameWorks_eq
    ({ m with divider := m.divider.advance 1 }.mapRegisters
      fun r => { r with cycles := r.cycles + 1 }) m.framesDue

theorem finishTick_eq [Devices δ] {m : Machine ρ δ} (hd : m.divider.InRange) :
    m.finishTick =
      { m with
        core := m.core.endTick m.divider.due
        devices := (if m.divider.due then m.core.frameSignals else []).foldl
          (fun d s => Devices.receive s d) m.devices
        divider := m.divider.advance 1 } := by
  rw [finishTick, FrameDivider.elapsed_one hd]
  cases m.divider.due with
  | false => rfl
  | true => exact frameWork_eq _

/-! ## Completed ticks -/

section Completed

variable [RandomSource ρ] [Devices δ] {m m' : Machine ρ δ}
  {i? : Option Instruction}

/-- What is true of a completed tick that took `m` to `m'`. -/
structure Done (m m' : Machine ρ δ) : Prop where
  outcome : m.outcome = .done m.afterInstruction
  core : m'.core = m.afterInstruction.endTick m.divider.due
  devices :
    m'.devices = m.sent.foldl (fun d s => Devices.receive s d) m.devices
  divider : m'.divider = m.divider.advance 1
  config : m'.config = m.config

theorem step_eq_done_iff :
    m.step = .done i? m' ↔
      m.outcome = .done m.afterInstruction ∧ i? = m.instruction? ∧
        m' = (m.withOutcome m.afterInstruction).finishTick := by
  rw [step_eq, afterInstruction]
  cases m.outcome with
  | done c => simp [Outcome.value, eq_comm]
  | stalled c => simp
  | unfit c => simp

/-- After the instruction a completed tick is counted and does the frame work
that is due, and nothing else of the core changes. -/
theorem core_of_step (h : m.step = .done i? m') :
    m'.core = Core.endFrame^[m.framesDue] m.afterInstruction.countTick := by
  obtain ⟨-, -, rfl⟩ := step_eq_done_iff.mp h
  obtain ⟨devices, -, hf⟩ :=
    finishTick_eq_framesDue (m.withOutcome m.afterInstruction)
  rw [hf, withOutcome_core, framesDue, withOutcome_divider, framesDue]

theorem done_of_step (hd : m.divider.InRange) (h : m.step = .done i? m') :
    Done m m' := by
  obtain ⟨ho, -, rfl⟩ := step_eq_done_iff.mp h
  have hd' : (m.withOutcome m.afterInstruction).divider.InRange := by
    simpa using hd
  rw [finishTick_eq hd']
  exact ⟨ho, by simp, by simp [sent], by simp, by simp⟩

omit [Devices δ] in
theorem execute_of_outcome (ho : m.outcome = .done m.afterInstruction)
    {i : Instruction} (hi : m.instruction? = some i) :
    m.fetched.execute m.config.shiftUsesVy i = .done m.afterInstruction := by
  rw [← ho, Machine.outcome, hi]

theorem Done.execute_eq (hd : Done m m') {i : Instruction}
    (hi : m.instruction? = some i) :
    m.fetched.execute m.config.shiftUsesVy i = .done m.afterInstruction :=
  execute_of_outcome hd.outcome hi

omit [Devices δ] in
theorem afterInstruction_of_none (hi : m.instruction? = none) :
    m.afterInstruction =
      m.fetched.report (.unknown ⟨m.fetch.1, some m.core.registers.pc⟩) := by
  rw [afterInstruction, Machine.outcome, hi]
  rfl

omit [Devices δ] in
theorem footprint_of_outcome (ho : m.outcome = .done m.afterInstruction) :
    Core.Footprint m.operation? m.fetched m.afterInstruction := by
  unfold operation?
  cases hi : m.instruction? with
  | none =>
      rw [afterInstruction_of_none hi]
      exact .of_plain _ m.fetched _ _ _
  | some i => exact Core.execute_footprint (execute_of_outcome ho hi)

theorem Done.footprint (hd : Done m m') :
    Core.Footprint m.operation? m.fetched m.afterInstruction :=
  footprint_of_outcome hd.outcome

theorem Done.afterInstruction_inRange (h : m.InRange) (hd : Done m m') :
    m.afterInstruction.registers.InRange := by
  cases hi : m.instruction? with
  | none =>
      rw [afterInstruction_of_none hi]
      exact fetched_inRange h
  | some i => exact Core.execute_inRange (fetched_inRange h) (hd.execute_eq hi)

theorem Done.inRange (h : m.InRange) (hd : Done m m') : m'.InRange := by
  refine ⟨?_, ?_⟩
  · rw [hd.core]
    exact Core.endTick_inRange (hd.afterInstruction_inRange h) _
  · rw [hd.divider]
    exact FrameDivider.advance_inRange _ _

end Completed

end Machine

end Chip8
