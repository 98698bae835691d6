import Chip8.Text.Numeral
import Chip8.Text.Printable

/-!
# Quoted text

A text in quotation marks, as it stands in messages. Apostrophes enclose it
unless it holds one and no double quotation mark. The enclosing mark and the
backslash are escaped, and so are characters that are not printable.
-/

namespace Chip8.Text

def apostrophe : Char := Char.ofNat 39

def doubleMark : Char := Char.ofNat 34

def backslash : Char := Char.ofNat 92

def enclosingMark (cs : List Char) : Char :=
  if cs.contains apostrophe && !cs.contains doubleMark then doubleMark
  else apostrophe

def lowerHex (w n : Nat) : List Char :=
  (fixedHex w n).map Char.toLower

def quotedChar (mark c : Char) : List Char :=
  if c = mark ∨ c = backslash then [backslash, c]
  else if c = '\t' then [backslash, 't']
  else if c = '\n' then [backslash, 'n']
  else if c = '\r' then [backslash, 'r']
  else if isPrintable c then [c]
  else if c.toNat < 0x100 then backslash :: 'x' :: lowerHex 2 c.toNat
  else if c.toNat < 0x10000 then backslash :: 'u' :: lowerHex 4 c.toNat
  else backslash :: 'U' :: lowerHex 8 c.toNat

def quoted (s : String) : String :=
  let mark := enclosingMark s.toList
  String.ofList (mark :: s.toList.flatMap (quotedChar mark) ++ [mark])

end Chip8.Text
