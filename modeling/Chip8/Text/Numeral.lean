/-!
# Written numbers

Numbers as they stand in listings, traces and reports. `fixedHex w n` writes
the lowest `w` hexadecimal digits of `n`, by recursion on the width, for fields
whose values always fit; `hex w n` pads a number of any size to at least `w`
places and never cuts it; `signedHex` admits negative numbers, with the sign
standing inside the width. `grouped` separates thousands.

The digits of a number are most significant first everywhere.
-/

namespace Chip8.Text

def hexDigit (d : Nat) : Char :=
  if d < 10 then Char.ofNat (48 + d) else Char.ofNat (55 + d)

/-- The lowest `w` hexadecimal digits of `n`. -/
def fixedHex : Nat → Nat → List Char
  | 0, _ => []
  | w + 1, n => fixedHex w (n / 16) ++ [hexDigit (n % 16)]

@[simp] theorem fixedHex_zero (n : Nat) : fixedHex 0 n = [] := rfl

theorem fixedHex_succ (w n : Nat) :
    fixedHex (w + 1) n = fixedHex w (n / 16) ++ [hexDigit (n % 16)] := rfl

@[simp] theorem length_fixedHex (w n : Nat) : (fixedHex w n).length = w := by
  induction w generalizing n with
  | zero => rfl
  | succ w ih => simp [fixedHex, ih]

/-- The number of hexadecimal digits that `n` needs; zero needs one. -/
def hexWidth (n : Nat) : Nat :=
  if n < 16 then 1 else hexWidth (n / 16) + 1

/-- `n` in hexadecimal, with zeros in front up to `w` places. -/
def hex (w n : Nat) : String :=
  String.ofList (fixedHex (max w (hexWidth n)) n)

/-- An integer in hexadecimal; a minus sign takes one of the `w` places. -/
def signedHex (w : Nat) : Int → String
  | .ofNat n => hex w n
  | .negSucc n => "-" ++ hex (w - 1) (n + 1)

def padRight (w : Nat) (s : String) : String :=
  s ++ String.ofList (List.replicate (w - s.length) ' ')

def padLeft (w : Nat) (s : String) : String :=
  String.ofList (List.replicate (w - s.length) ' ') ++ s

/-- Digits, least significant first, with a comma after every third one that
has a successor. -/
def commas : List Char → List Char
  | a :: b :: c :: d :: rest => a :: b :: c :: ',' :: commas (d :: rest)
  | short => short

def grouped : Int → String
  | .ofNat n => String.ofList (commas (toString n).toList.reverse).reverse
  | .negSucc n =>
    "-" ++ String.ofList (commas (toString (n + 1)).toList.reverse).reverse

end Chip8.Text
