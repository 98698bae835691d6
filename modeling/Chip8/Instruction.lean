import Chip8.Word
import Chip8.Operation

/-!
# Instructions

An instruction is an operation together with its operands, each operand in the
type of what it names. `Instruction.toWord` writes an instruction as the word
that stands for it in memory. The shift instructions keep both registers,
because which of them is shifted is a setting of the machine and not part of
the instruction.
-/

namespace Chip8

inductive Instruction where
  /-- Call of host machine code at `nnn`; ignored. -/
  | system (nnn : Address)
  | clear
  | ret
  | jump (nnn : Address)
  | call (nnn : Address)
  | skipEqByte (x : Register) (kk : UInt8)
  | skipNeByte (x : Register) (kk : UInt8)
  | skipEqReg (x y : Register)
  | loadByte (x : Register) (kk : UInt8)
  /-- `Vx := Vx + kk`, without a flag. -/
  | addByte (x : Register) (kk : UInt8)
  | loadReg (x y : Register)
  | or (x y : Register)
  | and (x y : Register)
  | xor (x y : Register)
  /-- `Vx := Vx + Vy`, `VF` the carry. -/
  | addReg (x y : Register)
  /-- `Vx := Vx - Vy`, `VF` whether `Vx` was greater. -/
  | sub (x y : Register)
  /-- Shift right by one, `VF` the bit shifted out. -/
  | shiftRight (x y : Register)
  /-- `Vx := Vy - Vx`, `VF` whether `Vy` was greater. -/
  | subReverse (x y : Register)
  /-- Shift left by one, `VF` the bit shifted out. -/
  | shiftLeft (x y : Register)
  | skipNeReg (x y : Register)
  | loadIndex (nnn : Address)
  /-- Continue at `nnn + V0`. -/
  | jumpOffset (nnn : Address)
  /-- `Vx := random byte and kk`. -/
  | random (x : Register) (kk : UInt8)
  | draw (x y : Register) (n : Nibble)
  | skipKey (x : Register)
  | skipNotKey (x : Register)
  | readDelay (x : Register)
  /-- Wait until a key is held, then `Vx := key`. -/
  | waitKey (x : Register)
  | setDelay (x : Register)
  | setSound (x : Register)
  | addIndex (x : Register)
  /-- `I :=` the glyph of the digit `Vx`. -/
  | loadGlyph (x : Register)
  /-- Store the three decimal digits of `Vx` at `I`. -/
  | storeDecimal (x : Register)
  | storeRegs (x : Register)
  | loadRegs (x : Register)
  deriving DecidableEq, Repr

namespace Instruction

def operation : Instruction → Operation
  | system _ => .system
  | clear => .clear
  | ret => .ret
  | jump _ => .jump
  | call _ => .call
  | skipEqByte _ _ => .skipEqByte
  | skipNeByte _ _ => .skipNeByte
  | skipEqReg _ _ => .skipEqReg
  | loadByte _ _ => .loadByte
  | addByte _ _ => .addByte
  | loadReg _ _ => .loadReg
  | or _ _ => .or
  | and _ _ => .and
  | xor _ _ => .xor
  | addReg _ _ => .addReg
  | sub _ _ => .sub
  | shiftRight _ _ => .shiftRight
  | subReverse _ _ => .subReverse
  | shiftLeft _ _ => .shiftLeft
  | skipNeReg _ _ => .skipNeReg
  | loadIndex _ => .loadIndex
  | jumpOffset _ => .jumpOffset
  | random _ _ => .random
  | draw _ _ _ => .draw
  | skipKey _ => .skipKey
  | skipNotKey _ => .skipNotKey
  | readDelay _ => .readDelay
  | waitKey _ => .waitKey
  | setDelay _ => .setDelay
  | setSound _ => .setSound
  | addIndex _ => .addIndex
  | loadGlyph _ => .loadGlyph
  | storeDecimal _ => .storeDecimal
  | storeRegs _ => .storeRegs
  | loadRegs _ => .loadRegs

def wordOfAddress (f : Nat) (nnn : Address) : Word :=
  UInt16.ofNat (4096 * f + nnn)

def wordOfByte (f : Nat) (x : Register) (kk : UInt8) : Word :=
  UInt16.ofNat (4096 * f + 256 * x + kk.toNat)

def wordOfRegs (f : Nat) (x y : Register) (n : Nat) : Word :=
  UInt16.ofNat (4096 * f + 256 * x + 16 * y + n)

def toWord : Instruction → Word
  | system nnn => wordOfAddress 0x0 nnn
  | clear => 0x00E0
  | ret => 0x00EE
  | jump nnn => wordOfAddress 0x1 nnn
  | call nnn => wordOfAddress 0x2 nnn
  | skipEqByte x kk => wordOfByte 0x3 x kk
  | skipNeByte x kk => wordOfByte 0x4 x kk
  | skipEqReg x y => wordOfRegs 0x5 x y 0
  | loadByte x kk => wordOfByte 0x6 x kk
  | addByte x kk => wordOfByte 0x7 x kk
  | loadReg x y => wordOfRegs 0x8 x y 0x0
  | or x y => wordOfRegs 0x8 x y 0x1
  | and x y => wordOfRegs 0x8 x y 0x2
  | xor x y => wordOfRegs 0x8 x y 0x3
  | addReg x y => wordOfRegs 0x8 x y 0x4
  | sub x y => wordOfRegs 0x8 x y 0x5
  | shiftRight x y => wordOfRegs 0x8 x y 0x6
  | subReverse x y => wordOfRegs 0x8 x y 0x7
  | shiftLeft x y => wordOfRegs 0x8 x y 0xE
  | skipNeReg x y => wordOfRegs 0x9 x y 0
  | loadIndex nnn => wordOfAddress 0xA nnn
  | jumpOffset nnn => wordOfAddress 0xB nnn
  | random x kk => wordOfByte 0xC x kk
  | draw x y n => wordOfRegs 0xD x y n
  | skipKey x => wordOfByte 0xE x 0x9E
  | skipNotKey x => wordOfByte 0xE x 0xA1
  | readDelay x => wordOfByte 0xF x 0x07
  | waitKey x => wordOfByte 0xF x 0x0A
  | setDelay x => wordOfByte 0xF x 0x15
  | setSound x => wordOfByte 0xF x 0x18
  | addIndex x => wordOfByte 0xF x 0x1E
  | loadGlyph x => wordOfByte 0xF x 0x29
  | storeDecimal x => wordOfByte 0xF x 0x33
  | storeRegs x => wordOfByte 0xF x 0x55
  | loadRegs x => wordOfByte 0xF x 0x65

end Instruction

end Chip8
