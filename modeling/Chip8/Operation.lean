/-!
# Operations

The thirty-five operations of the processor, without their operands.
`Operation.all` lists them in the order of their words and misses none
(`mem_all`). `Operation.name` tells them all apart; `Operation.mnemonic` is
what a listing shows, where several operations share a mnemonic and are told
apart by the shape of their operands.
-/

namespace Chip8

/-- What an instruction does, operands left aside. -/
inductive Operation where
  | system
  | clear
  | ret
  | jump
  | call
  | skipEqByte
  | skipNeByte
  | skipEqReg
  | loadByte
  | addByte
  | loadReg
  | or
  | and
  | xor
  | addReg
  | sub
  | shiftRight
  | subReverse
  | shiftLeft
  | skipNeReg
  | loadIndex
  | jumpOffset
  | random
  | draw
  | skipKey
  | skipNotKey
  | readDelay
  | waitKey
  | setDelay
  | setSound
  | addIndex
  | loadGlyph
  | storeDecimal
  | storeRegs
  | loadRegs
  deriving DecidableEq, Repr

namespace Operation

def all : List Operation :=
  [system, clear, ret, jump, call, skipEqByte, skipNeByte, skipEqReg, loadByte,
    addByte, loadReg, or, and, xor, addReg, sub, shiftRight, subReverse,
    shiftLeft, skipNeReg, loadIndex, jumpOffset, random, draw, skipKey,
    skipNotKey, readDelay, waitKey, setDelay, setSound, addIndex, loadGlyph,
    storeDecimal, storeRegs, loadRegs]

theorem mem_all (o : Operation) : o ∈ all := by
  cases o <;> decide

def mnemonic : Operation → String
  | system => "SYS"
  | clear => "CLS"
  | ret => "RET"
  | jump | jumpOffset => "JP"
  | call => "CALL"
  | skipEqByte | skipEqReg => "SE"
  | skipNeByte | skipNeReg => "SNE"
  | loadByte | loadReg | loadIndex | readDelay | waitKey | setDelay | setSound
  | loadGlyph | storeDecimal | storeRegs | loadRegs => "LD"
  | addByte | addReg | addIndex => "ADD"
  | or => "OR"
  | and => "AND"
  | xor => "XOR"
  | sub => "SUB"
  | shiftRight => "SHR"
  | subReverse => "SUBN"
  | shiftLeft => "SHL"
  | random => "RND"
  | draw => "DRW"
  | skipKey => "SKP"
  | skipNotKey => "SKNP"

/-- A name that no two operations share. -/
def name : Operation → String
  | system => "SYS"
  | clear => "CLS"
  | ret => "RET"
  | jump => "JP"
  | call => "CALL"
  | skipEqByte => "SE_BYTE"
  | skipNeByte => "SNE_BYTE"
  | skipEqReg => "SE_REG"
  | loadByte => "LD_BYTE"
  | addByte => "ADD_BYTE"
  | loadReg => "LD_REG"
  | or => "OR"
  | and => "AND"
  | xor => "XOR"
  | addReg => "ADD_REG"
  | sub => "SUB"
  | shiftRight => "SHR"
  | subReverse => "SUBN"
  | shiftLeft => "SHL"
  | skipNeReg => "SNE_REG"
  | loadIndex => "LD_I"
  | jumpOffset => "JP_V0"
  | random => "RND"
  | draw => "DRW"
  | skipKey => "SKP"
  | skipNotKey => "SKNP"
  | readDelay => "LD_VX_DT"
  | waitKey => "LD_VX_K"
  | setDelay => "LD_DT_VX"
  | setSound => "LD_ST_VX"
  | addIndex => "ADD_I"
  | loadGlyph => "LD_F"
  | storeDecimal => "LD_B"
  | storeRegs => "LD_MEM_VX"
  | loadRegs => "LD_VX_MEM"

end Operation

end Chip8
