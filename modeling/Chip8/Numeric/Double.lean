import Chip8.Numeric.Rounding

/-!
# Doubles as exact numbers

A finite double is `± m · 2 ^ q` for whole numbers `m` and `q`.
`Double.ofFloat` reads them off the bits, so that rounding and printing can be
done on whole numbers. `floatOfInt` goes the other way: an integer becomes the
nearest double. One that is half a step or more beyond the greatest double is
near to none.
-/

namespace Chip8.Numeric

/-- The value `± significand · 2 ^ exponent`. -/
structure Double where
  negative : Bool
  significand : Nat
  exponent : Int
  deriving DecidableEq, Repr

namespace Double

/-- The bit above the fraction, which is not stored. -/
def hiddenBit : Nat := 0x10000000000000

def ofFloat (x : Float) : Double :=
  let bits := x.toBits.toNat
  let fraction := bits % hiddenBit
  let e : Nat := bits / hiddenBit % 2048
  { negative := bits / hiddenBit / 2048 = 1
    significand := if e = 0 then fraction else hiddenBit + fraction
    exponent := if e = 0 then -1074 else (e : Int) - 1075 }

/-- The size of `d · scale`, rounded to the nearest whole number. -/
def roundScaled (d : Double) (scale : Nat) : Nat :=
  match d.exponent with
  | .ofNat e => (d.significand <<< e) * scale
  | .negSucc e => roundDiv (d.significand * scale) (1 <<< (e + 1))

def round (d : Double) : Int :=
  let n := d.roundScaled 1
  if d.negative then -(n : Int) else n

def threePlaces (d : Double) : String :=
  let n := d.roundScaled 1000
  let places := (toString (1000 + n % 1000)).toList.drop 1
  (if d.negative then "-" else "") ++ toString (n / 1000) ++ "." ++
    String.ofList places

end Double

/-- The size from which on an integer is too large for a double. -/
def tooLarge : Nat := (1 <<< 1024) - (1 <<< 970)

def hasFloat (z : Int) : Bool :=
  z.natAbs < tooLarge

def floatOfInt : Int → Float
  | .ofNat n => Float.ofScientific n false 0
  | .negSucc n => -Float.ofScientific (n + 1) false 0

end Chip8.Numeric
