import Chip8.Digest.MD5
import Chip8.Listing.Histogram
import Chip8.Memory
import Chip8.Registers

/-!
# Program summary

What can be said of a program without running it: its size and digest, whether
it fits into the program area (`Fit`), how many of its words are instructions,
and how often each mnemonic occurs. `Summary.ofProgram` finds it out and
`Summary.lines` words it.
-/

namespace Chip8

inductive Fit where
  /-- It does, and so many bytes stay free. -/
  | fits (free : Nat)
  /-- It does not, being so many bytes too long. -/
  | tooLarge (excess : Nat)
  deriving DecidableEq, Repr

namespace Fit

def capacity : Nat :=
  memorySize - programStart

def ofSize (size : Nat) : Fit :=
  if capacity < size then tooLarge (size - capacity)
  else fits (capacity - size)

def text : Fit → String
  | fits free => "OK (" ++ toString free ++ " bytes free)"
  | tooLarge excess =>
    "TOO LARGE by " ++ toString excess ++ " bytes (program area $" ++
      Text.hex 3 programStart ++ "-$FFF holds " ++ toString capacity ++ ")"

end Fit

structure Summary where
  size : Nat
  digest : String
  fit : Fit
  words : Nat
  dataWords : Nat
  histogram : List (String × Nat)
  deriving DecidableEq, Repr

namespace Summary

def ofProgram (program : List UInt8) : Summary :=
  let items := Listing.ofBytes false programStart 0 program
  let words := items.filter (·.length = 2)
  { size := program.length
    digest := MD5.hexDigest program
    fit := Fit.ofSize program.length
    words := words.length
    dataWords := words.countP (·.isData)
    histogram := Listing.histogram items }

def countLine (entry : String × Nat) : String :=
  "  " ++ Text.padRight 5 entry.1 ++ " " ++ Text.padLeft 5 (toString entry.2)

def lines (name : String) (s : Summary) : List String :=
  ["File:     " ++ name, "Size:     " ++ toString s.size ++ " bytes",
    "MD5:      " ++ s.digest, "Fit:      " ++ s.fit.text] ++
  (if s.size % 2 = 1 then ["Note:     odd length, last byte is data"]
   else []) ++
  ["Words:    " ++ toString s.words ++ " (" ++ toString s.dataWords ++
      " not decodable as instructions)",
    "Opcodes:"] ++
  s.histogram.map countLine

end Summary

end Chip8
