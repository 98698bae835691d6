/-!
# Random bytes

The processor draws random bytes one at a time. A type is a `RandomSource` if
its values can be asked for a byte and become the source of the next one.
-/

namespace Chip8

/-- A source of bytes; drawing one yields it and the source that follows. -/
class RandomSource (ρ : Type) where
  draw : ρ → UInt8 × ρ

/-- A list of bytes drawn over and over; an empty list yields zeros. -/
structure CycledBytes where
  all : List UInt8
  rest : List UInt8 := all
  deriving DecidableEq, Repr

def CycledBytes.draw (s : CycledBytes) : UInt8 × CycledBytes :=
  match s.rest, s.all with
  | b :: rest, _ => (b, { s with rest })
  | [], b :: rest => (b, { s with rest })
  | [], [] => (0, s)

instance : RandomSource CycledBytes where
  draw := CycledBytes.draw

end Chip8
