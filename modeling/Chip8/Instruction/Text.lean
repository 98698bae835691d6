import Chip8.Instruction.Decode
import Chip8.Text.Numeral

/-!
# Assembly text

An instruction is written as its mnemonic and, after one blank, its operands:
registers as `V` and a hexadecimal digit, addresses as `$` and three digits,
bytes as `#$` and two digits, the row count of a sprite in decimal. Words that
are no instruction and stray bytes have texts of their own, with `DW` and `DB`
in place of the mnemonic.
-/

namespace Chip8

namespace Text

def register (x : Register) : String :=
  String.ofList ['V', hexDigit x]

def address (nnn : Address) : String :=
  String.ofList ('$' :: fixedHex 3 nnn)

def byte (kk : UInt8) : String :=
  String.ofList ('#' :: '$' :: fixedHex 2 kk.toNat)

def pair (a b : String) : String :=
  a ++ ", " ++ b

end Text

namespace Instruction

open Text

def mnemonic (i : Instruction) : String :=
  i.operation.mnemonic

/-- The operands of an instruction; empty if it has none. -/
def operands : Instruction → String
  | clear | ret => ""
  | system nnn | jump nnn | call nnn => address nnn
  | skipEqByte x kk | skipNeByte x kk | loadByte x kk | addByte x kk
  | random x kk => pair (register x) (byte kk)
  | skipEqReg x y | skipNeReg x y | loadReg x y | or x y | and x y | xor x y
  | addReg x y | sub x y | shiftRight x y | subReverse x y | shiftLeft x y =>
    pair (register x) (register y)
  | loadIndex nnn => pair "I" (address nnn)
  | jumpOffset nnn => pair "V0" (address nnn)
  | draw x y n => pair (register x) (pair (register y) (toString n.val))
  | skipKey x | skipNotKey x => register x
  | readDelay x => pair (register x) "DT"
  | waitKey x => pair (register x) "K"
  | setDelay x => pair "DT" (register x)
  | setSound x => pair "ST" (register x)
  | addIndex x => pair "I" (register x)
  | loadGlyph x => pair "F" (register x)
  | storeDecimal x => pair "B" (register x)
  | storeRegs x => pair "[I]" (register x)
  | loadRegs x => pair (register x) "[I]"

/-- A mnemonic with its operands; no blank follows a mnemonic that has none. -/
def assembly (mnemonic operands : String) : String :=
  if operands.isEmpty then mnemonic else mnemonic ++ " " ++ operands

def text (i : Instruction) : String :=
  assembly i.mnemonic i.operands

end Instruction

def UnknownWord.message (u : UnknownWord) : String :=
  "Unknown instruction $" ++ String.ofList (Text.fixedHex 4 u.word.toNat) ++
    match u.address with
    | none => ""
    | some a => " at $" ++ Text.signedHex 3 a

end Chip8
