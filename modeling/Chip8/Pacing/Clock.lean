/-!
# Clocks

A clock can be read, in nanoseconds, and slept on. Reading it may itself take
time. A sleep is asked for a positive number of nanoseconds, and refused if
that is too long for the clock; to yield is to sleep for as little as possible.
-/

namespace Chip8

class Clock (κ : Type) where
  /-- The time now, and the clock after it was read. -/
  read : κ → Int × κ
  /-- The clock after a sleep of so many nanoseconds; `none` if it cannot sleep
  that long. -/
  sleep : Nat → κ → Option κ
  /-- The clock after the shortest sleep. -/
  yield : κ → κ

end Chip8
