/-!
# Rounding

Rounding a quotient of natural numbers to the nearest whole number; a quotient
that lies exactly between two goes to the even one.
-/

namespace Chip8.Numeric

/-- `num / den` rounded to the nearest, a half to the even neighbour. -/
def roundDiv (num den : Nat) : Nat :=
  let q := num / den
  let twice := 2 * (num % den)
  if twice < den then q
  else if den < twice then q + 1
  else q + q % 2

end Chip8.Numeric
