import Chip8.Text.CharacterName
import Chip8.Text.Literal.Number

/-!
# Escapes

A backslash in a quotation gives the character behind it another meaning, or
announces the code point or the name of a character. `escapeError?` and
`byteEscapeError?` find the first escape that cannot be read. Positions count
characters, but a character beyond the ASCII ones counts as the escape that
writes it in ASCII (`spelled`).
-/

namespace Chip8.Text.Literal

def escaped (c : Char) : List Char :=
  '\\' :: 'U' :: lowerHex 8 c.toNat

/-- A text in ASCII characters, with escapes for the others. A backslash that
is followed by none of them is an escape itself then. -/
def spelled : List Char → List Char
  | [] => []
  | ['\\'] => ['\\', 'u', '0', '0', '5', 'c']
  | '\\' :: c :: rest =>
    if c.toNat < 128 then '\\' :: c :: spelled rest
    else '\\' :: 'u' :: '0' :: '0' :: '5' :: 'c' :: escaped c ++ spelled rest
  | c :: rest =>
    if c.toNat < 128 then c :: spelled rest else escaped c ++ spelled rest

def isHexadecimal (c : Char) : Bool :=
  (hexValue? c).isSome

def digitsAskedFor? (letter : Char) : Option Nat :=
  if letter = 'x' then some 2
  else if letter = 'u' then some 4
  else if letter = 'U' then some 8
  else none

/-- The fault of an escape behind its letter, and how many characters of what
follows belong to it; none if it is in order. -/
def codeFault? (letter : Char) (asked : Nat) (cs : List Char) :
    Option EscapeFault × Nat :=
  let digits := (cs.take asked).takeWhile isHexadecimal
  if digits.length < asked then (some (.truncated letter asked), digits.length)
  else if 0x110000 ≤ Number.valueUpTo 0x110000 .hexadecimal digits then
    (some .beyond, asked)
  else (none, asked)

def nameFault? (cs : List Char) : Option EscapeFault × Nat :=
  match cs with
  | '{' :: rest =>
    let name := rest.takeWhile (· ≠ '\x7d')
    if name.length = rest.length then (some .malformedName, name.length + 1)
    else if name.isEmpty then (some .malformedName, 1)
    else
      (if isCharacterName name then none else some .unknownName,
        name.length + 2)
  | _ => (some .malformedName, 0)

/-- The first fault of an escape in a text from a position on, in so many steps
at most. -/
def escapeErrorFrom : Nat → Nat → List Char → Option QuotationError
  | fuel + 1, position, '\\' :: letter :: rest =>
    let (fault?, length) :=
      match digitsAskedFor? letter with
      | some asked => codeFault? letter asked rest
      | none => if letter = 'N' then nameFault? rest else (none, 0)
    match fault? with
    | some fault => some (.escape fault position (position + length + 1))
    | none => escapeErrorFrom fuel (position + length + 2) (rest.drop length)
  | fuel + 1, position, _ :: rest => escapeErrorFrom fuel (position + 1) rest
  | _, _, _ => none

def escapeError? (cs : List Char) : Option QuotationError :=
  if cs.contains '\\' then
    let cs := spelled cs
    escapeErrorFrom cs.length 0 cs
  else none

def byteEscapeErrorFrom (position : Nat) : List Char → Option QuotationError
  | '\\' :: letter :: rest =>
    let digits := (rest.take 2).takeWhile isHexadecimal
    if letter = 'x' && digits.length < 2 then some (.byteEscape position)
    else byteEscapeErrorFrom (position + 2) rest
  | _ :: rest => byteEscapeErrorFrom (position + 1) rest
  | [] => none

def byteEscapeError? (cs : List Char) : Option QuotationError :=
  byteEscapeErrorFrom 0 cs

end Chip8.Text.Literal
