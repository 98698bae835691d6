import Chip8.Text.Blank
import Chip8.Text.Numeral

/-!
# Bytes in hexadecimal

Bytes are written as two digits each. Reading is more liberal than writing: all
marks `0x`, then all marks `$`, then all blanks are removed, and what is left
must be an even number of ASCII hexadecimal digits of either case. A text that
is not is reported with a position in what is left: that of the first character
outside ASCII if there is one, else that of the first character that is no
digit, else its end, where the last byte lacks a digit.
-/

namespace Chip8.Text

def hexOfBytes (bytes : List UInt8) : String :=
  String.ofList (bytes.flatMap fun b => fixedHex 2 b.toNat)

def hexValue? (c : Char) : Option Nat :=
  if '0' ≤ c ∧ c ≤ '9' then some (c.toNat - 48)
  else if 'a' ≤ c ∧ c ≤ 'f' then some (c.toNat - 87)
  else if 'A' ≤ c ∧ c ≤ 'F' then some (c.toNat - 55)
  else none

structure HexError where
  position : Nat
  deriving DecidableEq, Repr

def HexError.message (e : HexError) : String :=
  "non-hexadecimal number found in fromhex() arg at position " ++
    toString e.position

def dropHexMarks : List Char → List Char
  | '0' :: 'x' :: rest => dropHexMarks rest
  | c :: rest => c :: dropHexMarks rest
  | [] => []

def hexDigitsOf (cs : List Char) : List Char :=
  ((dropHexMarks cs).filter (· ≠ '$')).filter (!isBlank ·)

/-- Reads pairs of digits; `position` is where the text begins. -/
def readPairs (position : Nat) : List Char → Except HexError (List UInt8)
  | [] => .ok []
  | [a] => .error ⟨if (hexValue? a).isSome then position + 1 else position⟩
  | a :: b :: rest =>
    match hexValue? a, hexValue? b with
    | none, _ => .error ⟨position⟩
    | some _, none => .error ⟨position + 1⟩
    | some hi, some lo =>
      (readPairs (position + 2) rest).map (UInt8.ofNat (16 * hi + lo) :: ·)

def readHexDigits (cs : List Char) : Except HexError (List UInt8) :=
  match cs.findIdx? (fun c => 128 ≤ c.toNat) with
  | some position => .error ⟨position⟩
  | none => readPairs 0 cs

def bytesOfHex (s : String) : Except HexError (List UInt8) :=
  readHexDigits (hexDigitsOf s.toList)

end Chip8.Text
