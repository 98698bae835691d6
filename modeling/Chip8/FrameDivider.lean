/-!
# Frame divider

Timers and screen work at a fixed frame rate, whatever the speed of the
processor. The divider turns ticks into frames: one frame every `period` ticks,
the first one at the first tick. It may be advanced by any integer; what it
has counted is the sum of what it was given, divided with remainder towards
minus infinity.
-/

namespace Chip8

structure FrameDivider where
  period : Nat
  /-- The ticks since the last frame. -/
  count : Int
  frames : Int
  period_pos : 0 < period

namespace FrameDivider

/-- A divider that makes its first frame at the first tick. -/
def start (period : Nat) (h : 0 < period) : FrameDivider :=
  ⟨period, (period : Int) - 1, 0, h⟩

structure PeriodError where
  period : Int
  deriving DecidableEq, Repr

def PeriodError.message (e : PeriodError) : String :=
  "prescaler must be >= 1, got " ++ toString e.period

def ofPeriod (period : Int) : Except PeriodError FrameDivider :=
  if h : 1 ≤ period then .ok (start period.toNat (by omega))
  else .error ⟨period⟩

/-- The frames that `ticks` more ticks make. -/
def elapsed (d : FrameDivider) (ticks : Int) : Int :=
  (d.count + ticks) / d.period

def advance (d : FrameDivider) (ticks : Int) : FrameDivider :=
  { d with
    count := (d.count + ticks) % d.period
    frames := d.frames + d.elapsed ticks }

def reset (d : FrameDivider) : FrameDivider :=
  start d.period d.period_pos

end FrameDivider

end Chip8
