import Chip8.Text.Blank
import Chip8.Text.DecimalDigit

/-!
# Integer literals

An integer literal is a sign, which may be missing, and digits, between which
single underscores may stand; blanks around it are ignored. A hexadecimal
literal may begin with `0x` or `0X`, and one underscore may follow that.
Decimal digits of all scripts are admitted. A decimal literal may not have more
than 4300 digits.
-/

namespace Chip8.Text

def maxDecimalDigits : Nat := 4300

/-- A character as it counts in a literal: digits of other scripts stand for
the ASCII ones and blanks for the space. -/
def literalChar (c : Char) : Char :=
  if c.toNat < 127 then c
  else if isBlank c then ' '
  else
    match decimalValue? c with
    | some d => Char.ofNat (48 + d)
    | none => '?'

def digitValue? (c : Char) : Option Nat :=
  if '0' ≤ c ∧ c ≤ '9' then some (c.toNat - 48)
  else if 'a' ≤ c ∧ c ≤ 'z' then some (c.toNat - 87)
  else if 'A' ≤ c ∧ c ≤ 'Z' then some (c.toNat - 55)
  else none

/-- Reads digits with single underscores between them; `value` is what was read
before, and `afterDigit` tells whether its last character was a digit. -/
def readDigits (base : Nat) (value : Nat) (afterDigit : Bool) :
    List Char → Option Nat
  | [] => if afterDigit then some value else none
  | '_' :: rest =>
    if afterDigit then readDigits base value false rest else none
  | c :: rest =>
    match digitValue? c with
    | some d =>
      if d < base then readDigits base (base * value + d) true rest else none
    | none => none

def dropHexMark : List Char → List Char
  | '0' :: 'x' :: '_' :: rest | '0' :: 'X' :: '_' :: rest => rest
  | '0' :: 'x' :: rest | '0' :: 'X' :: rest => rest
  | cs => cs

def readMagnitude (base : Nat) (cs : List Char) : Option Nat :=
  if base = 16 then readDigits base 0 false (dropHexMark cs)
  else if maxDecimalDigits < cs.countP (· ≠ '_') then none
  else readDigits base 0 false cs

def intLiteral? (base : Nat) (s : String) : Option Int :=
  match stripBy isAsciiBlank (s.toList.map literalChar) with
  | '-' :: cs => (readMagnitude base cs).map fun n => -(n : Int)
  | '+' :: cs => (readMagnitude base cs).map fun n => (n : Int)
  | cs => (readMagnitude base cs).map fun n => (n : Int)

end Chip8.Text
