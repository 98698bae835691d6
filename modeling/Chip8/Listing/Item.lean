import Chip8.Instruction.Text
import Chip8.Text.HexBytes

/-!
# Listing items

An item of a listing is a pair of bytes, taken as an instruction word, or the
single byte at the end of an input of odd length. It is shown with its address,
its bytes, its assembly text and a comment. A word that is no instruction is
shown as data, and so is a single byte.
-/

namespace Chip8.Listing

inductive Chunk where
  | word (high low : UInt8)
  | byte (b : UInt8)
  deriving DecidableEq, Repr

inductive Use where
  | jumped
  | called
  deriving DecidableEq, Repr

structure Item where
  address : Int
  chunk : Chunk
  /-- How the address is used, in the order of first use. -/
  uses : List Use := []
  deriving DecidableEq, Repr

namespace Chunk

def bytes : Chunk → List UInt8
  | word high low => [high, low]
  | byte b => [b]

def instruction? : Chunk → Option Instruction
  | word high low => Instruction.ofWord? (Word.ofBytes high low)
  | byte _ => none

/-- The mnemonic; `DW` and `DB` mark data. -/
def mnemonic (c : Chunk) : String :=
  match c.instruction?, c with
  | some i, _ => i.mnemonic
  | none, word _ _ => "DW"
  | none, byte _ => "DB"

/-- The operands; for data, its value. -/
def operands (c : Chunk) : String :=
  match c.instruction? with
  | some i => i.operands
  | none =>
    String.ofList ('$' :: c.bytes.flatMap fun b => Text.fixedHex 2 b.toNat)

end Chunk

namespace Item

def bytes (i : Item) : List UInt8 :=
  i.chunk.bytes

def length (i : Item) : Nat :=
  i.bytes.length

def instruction? (i : Item) : Option Instruction :=
  i.chunk.instruction?

def isData (i : Item) : Bool :=
  i.instruction?.isNone

def mnemonic (i : Item) : String :=
  i.chunk.mnemonic

def operands (i : Item) : String :=
  i.chunk.operands

def assembly (i : Item) : String :=
  Instruction.assembly i.mnemonic i.operands

def useName (address : Int) : Use → String
  | .jumped => "label_" ++ Text.signedHex 3 address
  | .called => "sub_" ++ Text.signedHex 3 address

/-- The names under which the address is used, separated by commas. -/
def comment (i : Item) : String :=
  ", ".intercalate (i.uses.map (useName i.address))

def line (i : Item) : String :=
  let text := "$" ++ Text.signedHex 3 i.address ++ ": " ++
    Text.padRight 4 (Text.hexOfBytes i.bytes) ++ "  " ++ i.assembly
  if i.comment.isEmpty then text else text ++ "  ; " ++ i.comment

end Item

end Chip8.Listing
