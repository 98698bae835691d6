import Chip8.Proofs.Agree
import Chip8.Proofs.Buzzer
import Chip8.Proofs.Entitlement
import Chip8.Proofs.FrameRate
import Chip8.Proofs.HandOff

/-!
# A reset replays power-on

A reset undoes less than it seems: what lies on the call stack, the recorded
faults and the reports stay, and the screen is marked as touched. Still a
machine after a reset goes the way of a new one with the same bytes in memory,
whatever happens to both, as long as there never were more returns than calls
since (`Balanced`).

Two machines that go the same way are in `Lockstep`. Its invariant is about the
slots of the calls that are still open: these agree, however deep the calls
nest and however often the stack pointer wraps, since both machines filled them
after the start. Older slots need not agree, and no return looks at them. The
mark on the screen agrees after the first tick, which does the frame work on
both machines; so from the second tick on they show the same frames.
-/

namespace Chip8

namespace Machine

/-- At no point there were more returns than calls. -/
def Balanced {ρ δ : Type} (ms : List (Machine ρ δ)) : Prop :=
  ∀ n ≤ ms.length, 0 ≤ level (ms.take n)

instance {ρ δ : Type} (ms : List (Machine ρ δ)) : Decidable (Balanced ms) :=
  inferInstanceAs (Decidable (∀ n ≤ ms.length, 0 ≤ level (ms.take n)))

theorem Balanced.of_append_singleton {ρ δ : Type} {ms : List (Machine ρ δ)}
    {m : Machine ρ δ} (h : Balanced (ms ++ [m])) :
    Balanced ms ∧ 0 ≤ level (ms ++ [m]) := by
  refine ⟨fun n hn => ?_, ?_⟩
  · have hlong : n ≤ (ms ++ [m]).length := by
      rw [List.length_append]
      omega
    have hlevel := h n hlong
    rwa [List.take_append_of_le_length hn] at hlevel
  · have hlevel := h (ms ++ [m]).length (Nat.le_refl _)
    rwa [List.take_length] at hlevel

/-- A new machine with the settings of another one, the same bytes in memory,
and the same key events going to arrive. -/
def rebuilt {ρ ρ' δ δ' : Type} (m : Machine ρ δ) (random : ρ') (devices : δ') :
    Machine ρ' δ' :=
  (powerOn m.config random devices).mapCore fun c =>
    { c with
      memory := { c.memory with bytes := m.core.memory.bytes }
      arrivals := m.core.arrivals }

variable {ρ ρ' σ σ' τ τ' : Type} [RandomSource ρ] [RandomSource ρ'] [Tone τ]
  [Tone τ']

/-! ## A tick on both machines -/

/-- What two machines have in common that go the same way. -/
structure Agree (m : Machine ρ (σ × τ)) (k : Machine ρ' (σ' × τ')) : Prop where
  config : m.config = k.config
  core : m.core.Agree k.core
  divider : m.divider = k.divider
  unknownCount : m.unknownCount = k.unknownCount
  sounds : m.sounds = k.sounds

/-- If the next tick is a return, both machines return to the same address. -/
def ReturnsAlike (m : Machine ρ (σ × τ)) (k : Machine ρ' (σ' × τ')) : Prop :=
  m.operation? = some .ret →
    m.core.stack.top m.core.registers.sp = k.core.stack.top k.core.registers.sp

namespace Agree

variable {m m' : Machine ρ (σ × τ)} {k k' : Machine ρ' (σ' × τ')}

theorem symm (h : m.Agree k) : k.Agree m :=
  ⟨h.config.symm, h.core.symm, h.divider.symm, h.unknownCount.symm,
    h.sounds.symm⟩

theorem inRange (h : m.Agree k) (hin : m.InRange) : k.InRange :=
  ⟨h.core.registers ▸ hin.registers, h.divider ▸ hin.divider⟩

theorem respond (h : m.Agree k) (s : Stimulus) :
    (m.respond s).Agree (k.respond s) := by
  have hcore := respond_core_agree h.core s
  cases s <;> exact { h with core := hcore }

theorem operation?_eq (h : m.Agree k) : m.operation? = k.operation? :=
  operation?_agree h.core

theorem afterInstruction (h : m.Agree k) (hret : ReturnsAlike m k)
    (ho : m.outcome = .done m.afterInstruction) :
    k.outcome = .done k.afterInstruction ∧
      m.afterInstruction.Agree k.afterInstruction :=
  afterInstruction_agree h.core h.config hret ho

variable [Surface σ] [Surface σ']

theorem dirty (h : m.Agree k)
    (hdirty : m.core.screen.dirty = k.core.screen.dirty) (hd : Done m m')
    (hd' : Done k k') :
    m.afterInstruction.screen.dirty = k.afterInstruction.screen.dirty := by
  rw [Bool.eq_iff_iff, hd.dirty_iff, hd'.dirty_iff, draws, draws,
    h.operation?_eq, hdirty]

variable [LawfulTone τ] [LawfulTone τ']

/-- What one machine completes, the other one completes likewise. -/
theorem step (h : m.Agree k) (hin : m.InRange) (hret : ReturnsAlike m k)
    {i? : Option Instruction} (hstep : m.step = .done i? m') :
    ∃ k', k.step = .done i? k' ∧ m'.Agree k' := by
  obtain ⟨ho, rfl, -⟩ := step_eq_done_iff.mp hstep
  obtain ⟨ho', hafter⟩ := h.afterInstruction hret ho
  have hstep' : k.step =
      .done m.instruction? (k.withOutcome k.afterInstruction).finishTick :=
    step_eq_done_iff.mpr ⟨ho', instruction?_agree h.core, rfl⟩
  refine ⟨_, hstep', ?_⟩
  have hd := done_of_step hin.divider hstep
  have hd' := done_of_step (h.inRange hin).divider hstep'
  refine ⟨?_, ?_, ?_, ?_, ?_⟩
  · rw [hd.config, hd'.config, h.config]
  · rw [hd.core, hd'.core, h.divider]
    exact hafter.endTick k.divider.due
  · rw [hd.divider, hd'.divider, h.divider]
  · rw [(entitled_of_step hstep).unknownCount,
      (entitled_of_step hstep').unknownCount, instruction?_agree h.core,
      h.unknownCount]
  · rw [Bool.eq_iff_iff, hd.sounds_iff hin, hd'.sounds_iff (h.inRange hin),
      leavesOn, leavesOn, findsZero, findsZero, h.divider, hafter.registers,
      h.sounds]

end Agree

/-! ## Courses of both machines -/

/-- Two machines have gone the same way: at the start of every tick and at the
end they agreed, and from the second tick on they showed the same frames. -/
structure Alike (ms : List (Machine ρ (σ × τ))) (m : Machine ρ (σ × τ))
    (ks : List (Machine ρ' (σ' × τ'))) (k : Machine ρ' (σ' × τ')) : Prop where
  agree : m.Agree k
  ticks : List.Forall₂ Agree ms ks
  shown : ms.tail.map Machine.shown = ks.tail.map Machine.shown

/-- What keeps two machines going the same way: also the slots of the calls
that are open agree, and after the first tick the mark on the screen. -/
structure Lockstep (ms : List (Machine ρ (σ × τ))) (m : Machine ρ (σ × τ))
    (ks : List (Machine ρ' (σ' × τ'))) (k : Machine ρ' (σ' × τ')) : Prop
    extends Alike ms m ks k where
  top (l : Int) :
    0 < l → l ≤ level ms → m.core.stack.top l = k.core.stack.top l
  dirty : ms ≠ [] → m.core.screen.dirty = k.core.screen.dirty

namespace Lockstep

variable {ms : List (Machine ρ (σ × τ))} {m m' : Machine ρ (σ × τ)}
  {ks : List (Machine ρ' (σ' × τ'))} {k k' : Machine ρ' (σ' × τ')}

theorem start (h : m.Agree k) : Lockstep [] m [] k where
  agree := h
  ticks := .nil
  shown := rfl
  top l hpos hle := absurd hpos (by simpa using hle)
  dirty hne := absurd rfl hne

theorem respond (h : Lockstep ms m ks k) (s : Stimulus) :
    Lockstep ms (m.respond s) ks (k.respond s) := by
  obtain ⟨_, _, _, _, hm⟩ := m.respond_eq s
  obtain ⟨_, _, _, _, hk⟩ := k.respond_eq s
  have hagree := h.agree.respond s
  rw [hm, hk] at hagree ⊢
  exact ⟨⟨hagree, h.ticks, h.shown⟩, h.top, h.dirty⟩

theorem returnsAlike (h : Lockstep ms m ks k)
    (hsp : m.core.registers.sp = CallStack.wrap (level ms))
    (hlevel : 0 ≤ level (ms ++ [m])) :
    ReturnsAlike m k := by
  intro hret
  rw [level_append, level_of_ret hret] at hlevel
  rw [← h.agree.core.registers, hsp, CallStack.top_wrap, CallStack.top_wrap]
  exact h.top _ (by omega) (Int.le_refl _)

variable [Surface σ] [Surface σ']

theorem top_tick (h : Lockstep ms m ks k)
    (hsp : m.core.registers.sp = CallStack.wrap (level ms)) (hd : Done m m')
    (hd' : Done k k') (l : Int) (hpos : 0 < l) (hle : l ≤ level (ms ++ [m])) :
    m'.core.stack.top l = k'.core.stack.top l := by
  have hop := h.agree.operation?_eq
  by_cases hc : m.operation? = some .call
  · have hregisters := h.agree.core.registers
    rw [level_append, level_of_call hc] at hle
    rw [(hd.of_call hc).2, (hd'.of_call (hop ▸ hc)).2, CallStack.top_push,
      CallStack.top_push, returnAddress, returnAddress, ← hregisters]
    split
    · rfl
    next hslot =>
      -- the level that the call opens is the one that its slot is for
      have hne : l ≠ level ms + 1 := by
        rintro rfl
        rw [hsp, CallStack.wrap] at hslot
        omega
      exact h.top l hpos (by omega)
  · have hlevel : level [m] ≤ 0 := by
      by_cases hr : m.operation? = some .ret
      · simp [level_of_ret hr]
      · simp [level_of_other hc hr]
    rw [level_append] at hle
    rw [hd.stack_of_not_call hc, hd'.stack_of_not_call (hop ▸ hc)]
    exact h.top l hpos (by omega)

/-- After a tick the marks agree: the first one takes them away, the others
treat both alike. -/
theorem dirty_tick (h : Lockstep ms m ks k)
    (hfirst : ms = [] → m.divider.due = true) (hd : Done m m')
    (hd' : Done k k') :
    m'.core.screen.dirty = k'.core.screen.dirty := by
  rw [hd.core, hd'.core, Core.endTick_screen, Core.endTick_screen,
    ← h.agree.divider]
  by_cases hms : ms = []
  · simp [hfirst hms]
  · rw [h.agree.dirty (h.dirty hms) hd hd']

theorem shown_tick (h : Lockstep ms m ks k)
    (hafter : m.afterInstruction.Agree k.afterInstruction) (hd : Done m m')
    (hd' : Done k k') :
    (ms ++ [m]).tail.map Machine.shown =
      (ks ++ [k]).tail.map Machine.shown := by
  by_cases hms : ms = []
  · subst hms
    obtain rfl := List.forall₂_nil_left_iff.mp h.ticks
    rfl
  · have hks : ks ≠ [] := by
      rintro rfl
      exact hms (List.forall₂_nil_right_iff.mp h.ticks)
    have hlast : m.shown = k.shown := by
      rw [shown_eq, shown_eq, h.agree.divider,
        h.agree.dirty (h.dirty hms) hd hd', hafter.frame]
    rw [List.tail_append_of_ne_nil hms, List.tail_append_of_ne_nil hks,
      List.map_append, List.map_append, h.shown, List.map_singleton,
      List.map_singleton, hlast]

variable [LawfulTone τ] [LawfulTone τ']

theorem tick (h : Lockstep ms m ks k) (hin : m.InRange)
    (hsp : m.core.registers.sp = CallStack.wrap (level ms))
    (hlevel : 0 ≤ level (ms ++ [m])) (hfirst : ms = [] → m.divider.due = true)
    {i? : Option Instruction} (hstep : m.step = .done i? m') :
    ∃ k', k.step = .done i? k' ∧ Lockstep (ms ++ [m]) m' (ks ++ [k]) k' := by
  have hret := h.returnsAlike hsp hlevel
  obtain ⟨k', hstep', hagree⟩ := h.agree.step hin hret hstep
  have hd := done_of_step hin.divider hstep
  have hd' := done_of_step (h.agree.inRange hin).divider hstep'
  have hafter := (h.agree.afterInstruction hret hd.outcome).2
  exact ⟨k', hstep',
    { agree := hagree
      ticks := List.rel_append h.ticks (.cons h.agree .nil)
      shown := h.shown_tick hafter hd hd'
      top := h.top_tick hsp hd hd'
      dirty := fun _ => h.dirty_tick hfirst hd hd' }⟩

end Lockstep

variable [Surface σ] [Surface σ'] [LawfulTone τ] [LawfulTone τ']

/-- What the one machine goes through in a script, as long as there never were
more returns than calls, the other one goes through likewise. -/
def Replays (m₀ : Machine ρ (σ × τ)) (k₀ : Machine ρ' (σ' × τ')) : Prop :=
  ∀ acts ms m, Script m₀ acts ms m → Balanced ms →
    ∃ ks k, Script k₀ acts ks k ∧ Alike ms m ks k

theorem Agree.replays {m₀ : Machine ρ (σ × τ)} {k₀ : Machine ρ' (σ' × τ')}
    (h₀ : m₀.Agree k₀) (hregisters : m₀.core.registers = Registers.powerOn)
    {period : Nat} {hp : 0 < period}
    (hdivider : m₀.divider = .start period hp) : m₀.Replays k₀ := by
  have hin : m₀.InRange :=
    ⟨hregisters ▸ Registers.powerOn_inRange,
      hdivider ▸ FrameDivider.start_inRange period hp⟩
  intro acts ms m h hbalanced
  suffices hlock : ∃ ks k, Script k₀ acts ks k ∧ Lockstep ms m ks k by
    obtain ⟨ks, k, hk, hlock⟩ := hlock
    exact ⟨ks, k, hk, hlock.toAlike⟩
  induction h with
  | start => exact ⟨[], k₀, .start, .start h₀⟩
  | outside s _ ih =>
      obtain ⟨ks, k, hk, hlock⟩ := ih hbalanced
      exact ⟨ks, k.respond s, hk.outside s, hlock.respond s⟩
  | @tick acts ms m m' i? h hstep ih =>
      obtain ⟨hbefore, hlevel⟩ := hbalanced.of_append_singleton
      obtain ⟨ks, k, hk, hlock⟩ := ih hbefore
      have hsp : m.core.registers.sp = CallStack.wrap (level ms) := by
        rw [(h.course.nested hin).sp, hregisters]
        exact congrArg CallStack.wrap (Int.zero_add _)
      have hfirst : ms = [] → m.divider.due = true := by
        rintro rfl
        exact (h.course.due_iff_of_start hdivider).mpr (Nat.zero_mod period)
      obtain ⟨k', hstep', hlock'⟩ :=
        hlock.tick (h.course.inRange hin).1 hsp hlevel hfirst hstep
      exact ⟨ks ++ [k], k', hk.tick hstep', hlock'⟩

/-- A machine after a reset and a new one with the same bytes in memory, which
draw the same random bytes, go through the same scripts in the same way. -/
theorem reset_replays_powerOn {m : Machine ρ (σ × τ)} (hm : m.Reachable)
    {random : ρ'}
    (hrandom : RandomSource.stream m.core.random = RandomSource.stream random)
    {surface : σ'} {tone : τ'} (htone : Tone.playing tone = false) :
    m.reset.Replays (m.rebuilt random (surface, tone)) ∧
      (m.rebuilt random (surface, tone)).Replays m.reset := by
  have hagree : m.reset.Agree (m.rebuilt random (surface, tone)) :=
    { config := rfl
      core := ⟨rfl, rfl, rfl, rfl, rfl, hrandom⟩
      divider := hm.reset_atStart.divider
      unknownCount := rfl
      sounds := (LawfulTone.playing_stop _).trans htone.symm }
  exact ⟨hagree.replays rfl hm.reset_atStart.divider,
    hagree.symm.replays rfl rfl⟩

/-- A reset within a routine, then the call again, a return, and a sprite of
random place, while a key goes down. -/
theorem reset_within_routine_replays :
    let fresh : Machine CycledBytes (FrameRecord × ToneRecord) :=
      powerOn { hz := 120 } ⟨[7, 9], [7, 9]⟩ ({}, {})
    let loaded := fresh.respond (.load "replay" 512
      [0x22, 0x08, 0xC0, 0xFF, 0xD0, 0x05, 0x12, 0x06, 0x00, 0xEE])
    let m := loaded.next
    let k₀ := m.reset
    let k₁ := k₀.next
    let k₂ := (k₁.respond (.press 5)).next
    let k₃ := k₂.next
    let k₄ := k₃.next
    let ms := [k₀, k₁.respond (.press 5), k₂, k₃, k₄]
    m.core.registers.sp = 1 ∧ Balanced ms ∧
      ∃ ks k, Script (m.rebuilt m.core.random (({}, {}) : FrameRecord × Bell))
        [.tick, .outside (.press 5), .tick, .tick, .tick, .tick] ks k ∧
        Alike ms k₄.next ks k := by
  intro fresh loaded m k₀ k₁ k₂ k₃ k₄ ms
  have hrun : loaded.completes ∧
      (k₀.completes ∧ (k₁.respond (.press 5)).completes ∧
        k₂.completes ∧ k₃.completes ∧ k₄.completes) ∧ m.core.registers.sp = 1 ∧
        Balanced ms := by
    decide +kernel
  obtain ⟨hcomplete, ⟨h₀, h₁, h₂, h₃, h₄⟩, hsp, hbalanced⟩ := hrun
  have hm : m.Reachable :=
    ⟨_, _, _, _, (Course.start.outside _).next hcomplete⟩
  have h :
      Script k₀ [.tick, .outside (.press 5), .tick, .tick, .tick, .tick] ms
        k₄.next :=
    (((((Script.start.next h₀).outside (.press 5)).next h₁).next h₂).next
      h₃).next h₄
  exact ⟨hsp, hbalanced,
    (reset_replays_powerOn hm rfl rfl).1 _ ms k₄.next h hbalanced⟩

end Machine

end Chip8
