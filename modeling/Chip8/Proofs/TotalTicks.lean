import Chip8.Proofs.Divider
import Mathlib.Data.Rat.Floor

/-!
# Only the total of the ticks counts

A frame divider is advanced by any integers one after the other, and each
advance tells how many frames it made. Every advance rounds its quotient down
and keeps the remainder in the count, so one would expect the way in which the
ticks are cut into parts to leave its trace. It does not: `advances_eq` takes
any list of advances to the one advance by their sum, and `sum_reports` adds up
what was told on the way. From a fresh divider on both are then known in closed
form.

Advances may be negative. Quotients are rounded towards minus infinity, and the
count stays within the period whatever the sign.
-/

namespace Chip8

namespace FrameDivider

def advances (d : FrameDivider) (ticks : List Int) : FrameDivider :=
  ticks.foldl advance d

def reports (d : FrameDivider) : List Int → List Int
  | [] => []
  | n :: ticks => d.elapsed n :: (d.advance n).reports ticks

/-- A divider for a period as it was built, or as a reset left it. -/
inductive Fresh (period : Int) : FrameDivider → Prop where
  | built {d : FrameDivider} (h : ofPeriod period = .ok d) : Fresh period d
  | reset {d : FrameDivider} (h : d.period = period) : Fresh period d.reset

@[simp] theorem advances_nil (d : FrameDivider) : d.advances [] = d := rfl

theorem advances_cons (d : FrameDivider) (n : Int) (ticks : List Int) :
    d.advances (n :: ticks) = (d.advance n).advances ticks := rfl

theorem advances_eq {d : FrameDivider} (h : d.InRange) (ticks : List Int) :
    d.advances ticks = d.advance ticks.sum := by
  induction ticks generalizing d with
  | nil => rw [advances_nil, List.sum_nil, advance_zero h]
  | cons n ticks ih =>
      -- whatever was left over by the first advance, the count is within the
      -- period again
      rw [advances_cons, ih (advance_inRange d n), advance_advance,
        List.sum_cons]

theorem sum_reports (d : FrameDivider) (ticks : List Int) :
    (d.reports ticks).sum = (d.advances ticks).frames - d.frames := by
  induction ticks generalizing d with
  | nil => exact (Int.sub_self _).symm
  | cons n ticks ih =>
      have hframes : (d.advance n).frames = d.frames + d.elapsed n := rfl
      rw [reports, List.sum_cons, ih, advances_cons, hframes]
      omega

theorem ofPeriod_eq_ok {period : Int} (h : 1 ≤ period) :
    ∃ (p : Nat) (hp : 0 < p),
      (p : Int) = period ∧ ofPeriod period = .ok (start p hp) :=
  ⟨period.toNat, by omega, by omega, dif_pos h⟩

theorem exists_ofPeriod_eq_ok_iff (period : Int) :
    (∃ d, ofPeriod period = .ok d) ↔ 1 ≤ period := by
  constructor
  · rintro ⟨d, h⟩
    by_contra hsmall
    rw [ofPeriod, dif_neg hsmall] at h
    exact nomatch h
  · intro h
    obtain ⟨p, hp, -, hd⟩ := ofPeriod_eq_ok h
    exact ⟨_, hd⟩

theorem Fresh.eq_start {period : Int} {d : FrameDivider} (h : d.Fresh period) :
    ∃ (p : Nat) (hp : 0 < p), (p : Int) = period ∧ d = start p hp := by
  cases h with
  | built h =>
      obtain ⟨p, hp, hperiod, hd⟩ :=
        ofPeriod_eq_ok ((exists_ofPeriod_eq_ok_iff period).mp ⟨d, h⟩)
      rw [h, Except.ok.injEq] at hd
      exact ⟨p, hp, hperiod, hd⟩
  | reset h => exact ⟨_, _, h, rfl⟩

/-- Only the total counts: what a fresh divider tells adds up to its frames,
these and the count are known from the sum of the advances, and so is the whole
divider. -/
theorem advances_of_total (period : Int) :
    ((∃ d, ofPeriod period = .ok d) ↔ 1 ≤ period) ∧
      ∀ d : FrameDivider, d.Fresh period → ∀ ticks : List Int,
        (d.reports ticks).sum = (d.advances ticks).frames ∧
          (d.advances ticks).frames =
            ⌊((period - 1 + ticks.sum : Int) : ℚ) / period⌋ ∧
          (d.advances ticks).count = (period - 1 + ticks.sum) % period ∧
          0 ≤ (d.advances ticks).count ∧
            (d.advances ticks).count ≤ period - 1 ∧
          d.advances ticks = d.advance ticks.sum ∧
          ∀ d' : FrameDivider, d'.Fresh period → ∀ ticks' : List Int,
            ticks'.sum = ticks.sum →
            d'.advances ticks' = d.advances ticks := by
  refine ⟨exists_ofPeriod_eq_ok_iff period, fun d hd ticks => ?_⟩
  obtain ⟨p, hp, rfl, rfl⟩ := hd.eq_start
  have hin := start_inRange p hp
  have hreports := sum_reports (start p hp) ticks
  rw [advances_eq hin] at hreports ⊢
  obtain ⟨hlow, hhigh⟩ := advance_inRange (start p hp) ticks.sum
  refine ⟨?_, ?_, rfl, hlow, Int.le_sub_one_of_lt hhigh, rfl, ?_⟩
  · exact hreports.trans (Int.sub_zero _)
  · rw [Int.cast_natCast, Rat.floor_intCast_div_natCast]
    exact Int.zero_add _
  · intro d' hd' ticks' hsum
    obtain ⟨p', hp', hperiod, rfl⟩ := hd'.eq_start
    obtain rfl := Int.ofNat_inj.mp hperiod
    rw [advances_eq hin, hsum]

/-- Going back and forth after a reset comes to the same as going there at once
in a divider that was just built. -/
theorem back_and_forth_after_reset :
    let d := ((start 9 (by decide)).advance 5).reset
    ∃ d', ofPeriod 9 = .ok d' ∧ d.Fresh 9 ∧ d'.Fresh 9 ∧
      ([20, -31, 0, 14] : List Int).sum = [3].sum ∧
        (d.reports [20, -31, 0, 14]).sum = 1 ∧
      d.advances [20, -31, 0, 14] = d'.advances [3] := by
  intro d
  obtain ⟨hbuilt, hall⟩ := advances_of_total 9
  obtain ⟨d', hd'⟩ := hbuilt.mpr (by decide)
  have hfresh : d.Fresh 9 := .reset rfl
  have hfresh' : d'.Fresh 9 := .built hd'
  have hsum : ([20, -31, 0, 14] : List Int).sum = [3].sum := by decide
  obtain ⟨hreports, -⟩ := hall d hfresh [20, -31, 0, 14]
  obtain ⟨-, -, -, -, -, -, hsame⟩ := hall d' hfresh' [3]
  refine ⟨d', hd', hfresh, hfresh', hsum, ?_, hsame d hfresh _ hsum⟩
  rw [hreports]
  decide

end FrameDivider

end Chip8
