/-!
# Configuration

The settings of a machine: the rate of the processor clock, which register the
shift instructions shift, and a seed for random numbers. A rate is accepted
from one tick a second to one a nanosecond, so a tick always takes a positive
number of nanoseconds and a frame a positive number of ticks.
-/

namespace Chip8

/-- Timer decay and screen refresh per second. -/
def framesPerSecond : Nat := 60

def nanosPerSecond : Nat := 1000000000

def defaultHz : Nat := 500

structure Config where
  hz : Nat := defaultHz
  /-- Whether shifts take `Vy` as their source instead of `Vx`. -/
  shiftUsesVy : Bool := false
  /-- The seed for random numbers, if they are to be repeatable. -/
  seed : Option Int := none
  hz_pos : 0 < hz := by decide
  hz_le : hz ≤ 1000000000 := by decide

inductive ConfigError where
  | notPositive (hz : Int)
  | tooFast (hz : Int)
  deriving DecidableEq, Repr

def ConfigError.message : ConfigError → String
  | notPositive hz => "cpu_hz must be positive, got " ++ toString hz
  | tooFast hz =>
    "cpu_hz must be at most " ++ toString nanosPerSecond ++ ", got " ++
      toString hz

namespace Config

def ofHz (hz : Int) (shiftUsesVy : Bool) (seed : Option Int) :
    Except ConfigError Config :=
  if h : hz ≤ 0 then .error (.notPositive hz)
  else if h' : 1000000000 < hz then .error (.tooFast hz)
  else .ok ⟨hz.toNat, shiftUsesVy, seed, by omega, by omega⟩

/-- The ticks that make a frame: `hz / 60` rounded up. -/
def ticksPerFrame (c : Config) : Nat :=
  (c.hz + 59) / 60

theorem ticksPerFrame_pos (c : Config) : 0 < c.ticksPerFrame := by
  have := c.hz_pos
  unfold ticksPerFrame
  omega

def nanosPerTick (c : Config) : Nat :=
  1000000000 / c.hz

theorem nanosPerTick_pos (c : Config) : 0 < c.nanosPerTick :=
  Nat.div_pos c.hz_le c.hz_pos

end Config

end Chip8
