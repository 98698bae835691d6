import Chip8.Pacing.Clock

/-!
# Pacing

A timekeeper holds ticks to a fixed period. It notes when a tick starts, and
when its work is done waits for what is left of the period: it sleeps for all
but a margin, since sleeps take longer than asked for, and then yields until
the time has come. A tick that is already late is counted as an overrun and is
not made up for later.

The yielding has no bound. On a clock that never comes to the deadline it does
not end, and nothing can be said of its result. A wait that is too long for the
clock is refused before any of it has passed.
-/

namespace Chip8

/-- The part of a wait that is not slept through, in nanoseconds. -/
def defaultSpinMargin : Int := 300000

structure Timekeeper (κ : Type) where
  period : Nat
  /-- The part of a wait that is not slept through. -/
  margin : Int := defaultSpinMargin
  tickStart : Option Int := none
  overruns : Nat := 0
  clock : κ
  period_pos : 0 < period

inductive Wait (κ : Type) where
  | over (t : Timekeeper κ)
  | refused (t : Timekeeper κ)

structure TickPeriodError where
  period : Int
  deriving DecidableEq, Repr

def TickPeriodError.message (e : TickPeriodError) : String :=
  "period_ns must be positive, got " ++ toString e.period

namespace Timekeeper

variable {κ : Type}

def ofPeriod (period margin : Int) (clock : κ) :
    Except TickPeriodError (Timekeeper κ) :=
  if h : 0 < period then
    .ok { period := period.toNat, margin, clock, period_pos := by omega }
  else .error ⟨period⟩

def mapClock (t : Timekeeper κ) (f : κ → κ) : Timekeeper κ :=
  { t with clock := f t.clock }

variable [Clock κ]

def now (t : Timekeeper κ) : Int × Timekeeper κ :=
  let (time, clock) := Clock.read t.clock
  (time, { t with clock })

def startTick (t : Timekeeper κ) : Int × Timekeeper κ :=
  let (time, t) := t.now
  (time, { t with tickStart := some time })

def spin (deadline : Int) (t : Timekeeper κ) : Timekeeper κ :=
  let (time, t) := t.now
  if time < deadline then t.mapClock Clock.yield |>.spin deadline else t
partial_fixpoint

/-- Waits for a deadline that is `remaining` away; `none` if the clock cannot
sleep that long. -/
def pause (t : Timekeeper κ) (deadline remaining : Int) :
    Option (Timekeeper κ) :=
  let coarse := remaining - t.margin
  let rested? :=
    if 0 < coarse then Clock.sleep coarse.toNat t.clock else some t.clock
  rested?.map fun clock => spin deadline { t with clock }

/-- Waits for a deadline; one that is not ahead is an overrun. -/
def waitUntil (t : Timekeeper κ) (deadline : Int) : Wait κ :=
  let (time, t) := t.now
  let remaining := deadline - time
  if remaining ≤ 0 then .over { t with overruns := t.overruns + 1 }
  else
    match t.pause deadline remaining with
    | some t => .over t
    | none => .refused t

/-- Waits for the end of the tick; without a tick there is nothing to wait
for. -/
def waitForTickEnd (t : Timekeeper κ) : Wait κ :=
  match t.tickStart with
  | some start => t.waitUntil (start + t.period)
  | none => .over t

end Timekeeper

end Chip8
