import Chip8.Proofs.Course
import Chip8.Proofs.Wait

/-!
# Well-formed machines

Whatever program is loaded and whatever happens to the keys, every part of a
reachable machine has the size and the range that the architecture gives it,
and a tick of it is completed unless it waits for a key in vain.

The parts that are bytes, words or indices by type need no invariant. The five
integer registers do (`Machine.InRange`), and the delay timer being in range is
what keeps a tick from being broken off.
-/

namespace Chip8.Machine

variable {ρ δ : Type}

/-- Every part has its size and every value its range. -/
structure WellFormed (m : Machine ρ δ) : Prop where
  general : m.core.registers.v.toList.length = 16 ∧
    ∀ b ∈ m.core.registers.v.toList, b.toNat ≤ 0xFF
  index : 0 ≤ m.core.registers.index ∧ m.core.registers.index ≤ 0xFFFF
  pc : 0 ≤ m.core.registers.pc ∧ m.core.registers.pc ≤ 0xFFFF
  sp : 0 ≤ m.core.registers.sp ∧ m.core.registers.sp ≤ 0xFF
  delay : 0 ≤ m.core.registers.delay ∧ m.core.registers.delay ≤ 0xFF
  sound : 0 ≤ m.core.registers.sound ∧ m.core.registers.sound ≤ 0xFF
  stack : m.core.stack.slots.toList.length = 16 ∧
    ∀ a ∈ m.core.stack.slots.toList, a.toNat ≤ 0xFFFF
  memory : m.core.memory.bytes.toList.length = 4096 ∧
    ∀ b ∈ m.core.memory.bytes.toList, b.toNat ≤ 0xFF
  screen : m.core.screen.frame.pixels.toList.length = 64 * 32
  keys : m.core.keypad.snapshot.held.toList.length = 16 ∧
    m.core.keypad.snapshot.last.val ≤ 15

theorem InRange.wellFormed {m : Machine ρ δ} (h : m.InRange) :
    m.WellFormed where
  general := ⟨Vector.length_toList, fun b _ => Nat.le_of_lt_succ b.toNat_lt⟩
  index := ⟨h.registers.index.1, Int.le_of_lt_add_one h.registers.index.2⟩
  pc := ⟨h.registers.pc.1, Int.le_of_lt_add_one h.registers.pc.2⟩
  sp := ⟨h.registers.sp.1, Int.le_of_lt_add_one h.registers.sp.2⟩
  delay := ⟨h.registers.delay.1, Int.le_of_lt_add_one h.registers.delay.2⟩
  sound := ⟨h.registers.sound.1, Int.le_of_lt_add_one h.registers.sound.2⟩
  stack := ⟨Vector.length_toList, fun a _ => Nat.le_of_lt_succ a.toNat_lt⟩
  memory := ⟨Vector.length_toList, fun b _ => Nat.le_of_lt_succ b.toNat_lt⟩
  screen := Vector.length_toList
  keys :=
    ⟨Vector.length_toList, Nat.le_of_lt_succ m.core.keypad.snapshot.last.isLt⟩

/-- The next tick waits for a key, and no key is held after any poll of it: not
after the first one, nor after any batch of events that is going to arrive. -/
def WaitsInVain (m : Machine ρ δ) : Prop :=
  (∃ x, m.instruction? = some (.waitKey x)) ∧
    ∀ n ≤ m.core.arrivals.length, ∀ key,
      (m.core.keypad.afterBatches m.core.arrivals n).isHeld key = false

variable [RandomSource ρ]

theorem outcome_cases {m : Machine ρ δ} (h : m.InRange) :
    (m.outcome = .done m.afterInstruction ∧ ¬ m.WaitsInVain) ∨
      (m.outcome = .stalled m.afterInstruction ∧ m.WaitsInVain) := by
  have hfetched := fetched_inRange h
  have hvain : m.WaitsInVain ↔ (∃ x, m.instruction? = some (.waitKey x)) ∧
      (m.fetched.keypad.wait m.fetched.arrivals).key? = none := by
    rw [fetched_keypad, fetched_arrivals, Keypad.wait_key?_eq_none_iff]
    simp only [Keypad.afterBatches_poll]
    rfl
  rw [hvain]
  unfold afterInstruction outcome
  cases hi : m.instruction? with
  | none => exact .inl ⟨rfl, by simp⟩
  | some i =>
      cases ho : m.fetched.execute m.config.shiftUsesVy i with
      | done c =>
          refine .inl ⟨by simp [ho, Outcome.value], ?_⟩
          rintro ⟨⟨x, hx⟩, hnone⟩
          cases hx
          obtain ⟨key, hkey, -⟩ := Core.waitKey_eq_done_iff.mp ho
          rw [hnone] at hkey
          cases hkey
      | stalled c =>
          obtain ⟨x, rfl, hnone, -⟩ := Core.execute_eq_stalled_iff.mp ho
          exact .inr ⟨by simp [ho, Outcome.value], ⟨x, rfl⟩, hnone⟩
      | unfit c => exact absurd ho (Core.execute_ne_unfit hfetched)

variable [Devices δ]

/-- A reachable machine is well-formed. Its next tick is completed unless it
waits for a key in vain, and then it stalls. -/
theorem wellFormed_and_step_of_reachable {m : Machine ρ δ} (h : m.Reachable) :
    m.WellFormed ∧
      ((∃ i? m', m.step = .done i? m') ↔ ¬ m.WaitsInVain) ∧
      ((∃ m', m.step = .stalled m') ↔ m.WaitsInVain) := by
  refine ⟨h.inRange.wellFormed, ?_⟩
  rw [step_eq]
  rcases outcome_cases h.inRange with ⟨ho, hv⟩ | ⟨ho, hv⟩
  · simp [ho, hv]
  · simp [ho, hv]

/-- A key that goes down and up between two polls is not noticed by a wait. -/
theorem keyWait_wellFormed_and_stalls :
    let m₀ : Machine CycledBytes (List Signal) := powerOn {} ⟨[], []⟩ []
    let m :=
      (m₀.respond (.load "wait" 512 [0x63, 0x05, 0xF0, 0x0A])).next.respond
      (.expect [[⟨5, true⟩, ⟨5, false⟩]])
    m.Reachable ∧ m.WellFormed ∧ ∃ m', m.step = .stalled m' := by
  intro m₀ m
  have hr : m.Reachable :=
    ⟨_, _, _, _, ((Course.start.outside _).next (by decide +kernel)).outside _⟩
  have hv : m.WaitsInVain := ⟨⟨0, by decide +kernel⟩, by decide +kernel⟩
  obtain ⟨hw, -, hs⟩ := wellFormed_and_step_of_reachable hr
  exact ⟨hr, hw, hs.mpr hv⟩

end Chip8.Machine
