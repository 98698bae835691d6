import Chip8.Proofs.Accesses
import Chip8.Proofs.Agree
import Chip8.Proofs.HandOff
import Chip8.Proofs.Nesting

/-!
# Machines in the same state

Two machines are in the same state if they have the same settings and the same
registers, memory, stack, screen, keys and counters, and will draw the same
random bytes (`Machine.Same`). Their devices, traces, meters and reports may be
anything, and so may the kinds of their random sources.

Nothing of that has a part in a tick: `Machine.Same.step` says that both
complete it, with the same instruction and the same signals, and are in the
same state again. What cores that `Agree` leave open is added here: the stack,
the mark on the screen, and the faults.
-/

namespace Chip8

namespace Core

variable {ρ ρ' : Type} [RandomSource ρ] [RandomSource ρ']

/-- Two cores differ in their reports only. -/
structure Same (c : Core ρ) (d : Core ρ') : Prop where
  registers : c.registers = d.registers
  memory : c.memory = d.memory
  stack : c.stack = d.stack
  screen : c.screen = d.screen
  keypad : c.keypad = d.keypad
  arrivals : c.arrivals = d.arrivals
  random : RandomSource.stream c.random = RandomSource.stream d.random

namespace Same

variable {c : Core ρ} {d : Core ρ'}

theorem agree (h : c.Same d) : c.Agree d :=
  ⟨h.registers, congrArg Memory.bytes h.memory, congrArg Screen.frame h.screen,
    h.keypad, h.arrivals, h.random⟩

theorem of_agree (h : c.Agree d) (hstack : c.stack = d.stack)
    (hdirty : c.screen.dirty = d.screen.dirty)
    (hfaults : c.memory.faults = d.memory.faults) :
    c.Same d where
  registers := h.registers
  memory := congrArg₂ Memory.mk h.bytes hfaults
  stack := hstack
  screen := congrArg₂ Screen.mk h.frame hdirty
  keypad := h.keypad
  arrivals := h.arrivals
  random := h.random

omit [RandomSource ρ] [RandomSource ρ'] in
theorem faults_writeBytes {c : Core ρ} {d : Core ρ'}
    (h : c.memory.faults = d.memory.faults) (base : Int) (data : List UInt8) :
    (c.writeBytes base data).memory.faults =
      (d.writeBytes base data).memory.faults := by
  induction data generalizing c d base with
  | nil => exact h
  | cons b rest ih =>
      refine ih ?_ (base + 1)
      rw [faults_writeByte, faults_writeByte, h]

theorem endTick (h : c.Same d) (due : Bool) :
    (c.endTick due).Same (d.endTick due) := by
  refine of_agree (h.agree.endTick due) ?_ ?_ ?_
  · rw [endTick_stack, endTick_stack, h.stack]
  · rw [endTick_screen, endTick_screen, h.screen]
  · cases due <;> exact congrArg Memory.faults h.memory

theorem frameSignals (h : c.Same d) : c.frameSignals = d.frameSignals := by
  unfold Core.frameSignals showSignals toneSignals
  rw [h.screen, h.registers]

end Same

end Core

namespace Machine

variable {ρ ρ' δ δ' : Type} [RandomSource ρ] [RandomSource ρ']

/-- Two machines are in the same state. -/
structure Same (m : Machine ρ δ) (k : Machine ρ' δ') : Prop where
  config : m.config = k.config
  core : m.core.Same k.core
  divider : m.divider = k.divider
  unknownCount : m.unknownCount = k.unknownCount

namespace Same

variable {m m' : Machine ρ δ} {k k' : Machine ρ' δ'}

theorem symm (h : m.Same k) : k.Same m where
  config := h.config.symm
  core := ⟨h.core.registers.symm, h.core.memory.symm, h.core.stack.symm,
    h.core.screen.symm,
    h.core.keypad.symm, h.core.arrivals.symm, h.core.random.symm⟩
  divider := h.divider.symm
  unknownCount := h.unknownCount.symm

theorem powerOn (config : Config) {random : ρ} {random' : ρ'} (devices : δ)
    (devices' : δ')
    (h : RandomSource.stream random = RandomSource.stream random') :
    (powerOn config random devices).Same (powerOn config random' devices')
      where
  config := rfl
  core := ⟨rfl, rfl, rfl, rfl, rfl, rfl, h⟩
  divider := rfl
  unknownCount := rfl

theorem inRange (h : m.Same k) (hin : m.InRange) : k.InRange :=
  ⟨h.core.registers ▸ hin.registers, h.divider ▸ hin.divider⟩

theorem respond (h : m.Same k) (s : Stimulus) :
    (m.respond s).Same (k.respond s) := by
  have hagree := respond_core_agree h.core.agree s
  have hcore : (m.respond s).core.Same (k.respond s).core := by
    refine .of_agree hagree ?_ ?_ ?_
    · obtain ⟨_, _, _, _, hm⟩ := m.respond_eq s
      obtain ⟨_, _, _, _, hk⟩ := k.respond_eq s
      rw [hm, hk]
      exact h.core.stack
    · obtain ⟨_, _, _, _, hm⟩ := m.respond_eq s
      obtain ⟨_, _, _, _, hk⟩ := k.respond_eq s
      rw [hm, hk]
      exact congrArg Screen.dirty h.core.screen
    · have hfaults := congrArg Memory.faults h.core.memory
      cases s with
      | load name base data =>
        exact Core.Same.faults_writeBytes hfaults base data
      | press _ | release _ | expect _ => exact hfaults
  cases s <;> exact { h with core := hcore }

theorem instruction?_eq (h : m.Same k) : m.instruction? = k.instruction? :=
  instruction?_agree h.core.agree

theorem operation?_eq (h : m.Same k) : m.operation? = k.operation? :=
  operation?_agree h.core.agree

theorem accesses_eq (h : m.Same k) : m.accesses = k.accesses := by
  unfold accesses
  rw [h.core.registers, h.instruction?_eq]

variable [Devices δ] [Devices δ']

omit [Devices δ] [Devices δ'] in
theorem outcome (h : m.Same k) (ho : m.outcome = .done m.afterInstruction) :
    k.outcome = .done k.afterInstruction ∧
      m.afterInstruction.Agree k.afterInstruction := by
  refine afterInstruction_agree h.core.agree h.config ?_ ho
  intro _
  rw [h.core.stack, h.core.registers]

theorem afterInstruction (h : m.Same k) (hd : Done m m') (hd' : Done k k') :
    m.afterInstruction.Same k.afterInstruction := by
  have hagree := (h.outcome hd.outcome).2
  have hop := h.operation?_eq
  refine .of_agree hagree ?_ ?_ ?_
  · have hstack : m'.core.stack = k'.core.stack := by
      by_cases hc : m.operation? = some .call
      · rw [(hd.of_call hc).2, (hd'.of_call (hop ▸ hc)).2, returnAddress,
          returnAddress, h.core.stack, h.core.registers]
      · rw [hd.stack_of_not_call hc, hd'.stack_of_not_call (hop ▸ hc),
          h.core.stack]
    rwa [hd.core, hd'.core, Core.endTick_stack, Core.endTick_stack] at hstack
  · rw [Bool.eq_iff_iff, hd.dirty_iff, hd'.dirty_iff, draws, draws, hop,
      h.core.screen]
  · rw [faults_afterInstruction hd.outcome,
      faults_afterInstruction hd'.outcome, h.accesses_eq, h.core.memory]

/-- Machines in the same state complete the same ticks, send the same signals,
and are in the same state afterwards. -/
theorem step (h : m.Same k) (hin : m.InRange) {i? : Option Instruction}
    (hstep : m.step = .done i? m') :
    ∃ k', k.step = .done i? k' ∧ m'.Same k' ∧ m.sent = k.sent := by
  obtain ⟨ho, rfl, -⟩ := step_eq_done_iff.mp hstep
  have hstep' : k.step =
      .done m.instruction? (k.withOutcome k.afterInstruction).finishTick :=
    step_eq_done_iff.mpr ⟨(h.outcome ho).1, h.instruction?_eq, rfl⟩
  have hd := done_of_step hin.divider hstep
  have hd' := done_of_step (h.inRange hin).divider hstep'
  have hafter := h.afterInstruction hd hd'
  refine ⟨_, hstep', ⟨?_, ?_, ?_, ?_⟩, ?_⟩
  · rw [hd.config, hd'.config, h.config]
  · rw [hd.core, hd'.core, h.divider]
    exact hafter.endTick k.divider.due
  · rw [hd.divider, hd'.divider, h.divider]
  · rw [(entitled_of_step hstep).unknownCount,
      (entitled_of_step hstep').unknownCount, h.instruction?_eq,
      h.unknownCount]
  · rw [sent, sent, h.divider, hafter.frameSignals]

end Same

end Machine

end Chip8
