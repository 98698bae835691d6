import Chip8.FrameDivider

/-!
# Advancing the frame divider

An advance rounds its quotient down, so it leaves the count within the period,
whatever stood there before. Advances add up: going on by some ticks and then
by others is going on by their sum (`advance_advance`), and the frames that
they make add up as well (`elapsed_add`). Within the period a single tick makes
one frame or none, and `due` tells which.
-/

namespace Chip8

namespace FrameDivider

def InRange (d : FrameDivider) : Prop :=
  0 ≤ d.count ∧ d.count < d.period

def due (d : FrameDivider) : Bool :=
  d.count + 1 = d.period

theorem start_inRange (period : Nat) (h : 0 < period) :
    (start period h).InRange := by
  simp only [InRange, start]
  omega

theorem advance_inRange (d : FrameDivider) (ticks : Int) :
    (d.advance ticks).InRange := by
  have hp := d.period_pos
  exact ⟨Int.emod_nonneg _ (by omega), Int.emod_lt_of_pos _ (by omega)⟩

theorem elapsed_one {d : FrameDivider} (h : d.InRange) :
    d.elapsed 1 = if d.due then 1 else 0 := by
  obtain ⟨h₀, h₁⟩ := h
  have hp := d.period_pos
  by_cases hd : d.count + 1 = d.period
  · have hq : ((d.period : Int)) / d.period = 1 := Int.ediv_self (by omega)
    simp [elapsed, due, hd, hq]
  · have hq : (d.count + 1) / d.period = 0 :=
      Int.ediv_eq_zero_of_lt (by omega) (by omega)
    simp [elapsed, due, hd, hq]

theorem advance_zero {d : FrameDivider} (h : d.InRange) : d.advance 0 = d := by
  obtain ⟨h₀, h₁⟩ := h
  have hq : d.count / d.period = 0 := Int.ediv_eq_zero_of_lt h₀ h₁
  have hr : d.count % d.period = d.count := Int.emod_eq_of_lt h₀ h₁
  simp [advance, elapsed, hq, hr]

theorem advance_advance (d : FrameDivider) (a b : Int) :
    (d.advance a).advance b = d.advance (a + b) := by
  have hp : (d.period : Int) ≠ 0 := by
    have := d.period_pos
    omega
  have hsplit : d.count + (a + b) =
      ((d.count + a) % d.period + b) +
        (d.count + a) / d.period * d.period := by
    have := Int.emod_add_ediv_mul (d.count + a) d.period
    omega
  have hq : (d.count + (a + b)) / d.period =
      ((d.count + a) % d.period + b) / d.period +
        (d.count + a) / d.period := by
    rw [hsplit, Int.add_mul_ediv_right _ _ hp]
  have hr : (d.count + (a + b)) % d.period =
      ((d.count + a) % d.period + b) % d.period := by
    rw [hsplit, Int.add_mul_emod_self_right]
  simp only [advance, elapsed, hq, hr, mk.injEq, true_and]
  omega

theorem elapsed_add (d : FrameDivider) (a b : Int) :
    d.elapsed (a + b) = d.elapsed a + (d.advance a).elapsed b := by
  have h := congrArg FrameDivider.frames (d.advance_advance a b)
  simp only [advance] at h ⊢
  omega

theorem elapsed_nonneg {d : FrameDivider} (h : d.InRange) (n : Nat) :
    0 ≤ d.elapsed n := by
  have := h.1
  exact Int.ediv_nonneg (by omega) (by omega)

/-- From the start on a frame falls due with every `period`-th tick, the first
one included. -/
theorem due_start_advance (period : Nat) (h : 0 < period) (n : Nat) :
    ((start period h).advance n).due = true ↔ n % period = 0 := by
  have hmod : ((period : Int) - 1 + n) % period + 1 = period ↔
      (n : Int) % period = 0 := by
    have hr := Int.emod_nonneg n (b := period) (by omega)
    have hlt := Int.emod_lt_of_pos n (b := period) (by omega)
    rw [← Int.add_emod_emod]
    rcases Int.lt_or_eq_of_le hr with hpos | hzero
    · have hwrap : ((period : Int) - 1 + n % period) % period =
          n % period - 1 := by
        have hshift : (period : Int) - 1 + n % period =
            (n % period - 1) + period := by omega
        rw [hshift, Int.add_emod_right,
          Int.emod_eq_of_lt (by omega) (by omega)]
      rw [hwrap]
      omega
    · rw [← hzero, Int.add_zero, Int.emod_eq_of_lt (by omega) (by omega)]
      omega
  have hcast : (n : Int) % period = 0 ↔ n % period = 0 := by omega
  rw [due, decide_eq_true_eq, ← hcast]
  exact hmod

end FrameDivider

end Chip8
