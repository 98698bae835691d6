import Chip8.Numeric.Double
import Chip8.Pacing.Clock

/-!
# A simulated clock

A clock whose time moves only when it is used. Each reading moves it by a fixed
amount. A sleep is asked for in seconds, as a double, and takes the nearest
number of nanoseconds and an overshoot, but never less than a minimum; a number
of nanoseconds that is too large for a double cannot be asked for. The clock
records what it was asked for.
-/

namespace Chip8

structure SimulatedClock where
  now : Int := 0
  perRead : Int := 0
  leastSleep : Int := 1000
  /-- What a sleep takes longer than asked for. -/
  overshoot : Int := 0
  /-- The sleeps that were asked for, in seconds, newest first. -/
  sleeps : List Float := []
  yields : Nat := 0

namespace SimulatedClock

def seconds (nanoseconds : Nat) : Float :=
  Numeric.floatOfInt nanoseconds / 1e9

def sleepTime (c : SimulatedClock) (s : Float) : Int :=
  max ((Numeric.Double.ofFloat (s * 1e9)).round + c.overshoot) c.leastSleep

def read (c : SimulatedClock) : Int × SimulatedClock :=
  (c.now, { c with now := c.now + c.perRead })

def sleep (nanoseconds : Nat) (c : SimulatedClock) : Option SimulatedClock :=
  if Numeric.hasFloat nanoseconds then
    let s := seconds nanoseconds
    some { c with now := c.now + c.sleepTime s, sleeps := s :: c.sleeps }
  else none

def yield (c : SimulatedClock) : SimulatedClock :=
  { c with now := c.now + c.sleepTime 0, yields := c.yields + 1 }

def pass (c : SimulatedClock) (nanoseconds : Int) : SimulatedClock :=
  { c with now := c.now + nanoseconds }

def clearRecord (c : SimulatedClock) : SimulatedClock :=
  { c with sleeps := [], yields := 0 }

instance : Clock SimulatedClock where
  read := read
  sleep := sleep
  yield := yield

end SimulatedClock

end Chip8
