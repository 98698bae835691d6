import Chip8.Instruction

/-!
# Decoding

`Instruction.ofWord?` reads a word as an instruction. Ten families are settled
by their top nibble; family 0 knows two words of its own and takes every other
one for a call of host code; families 5 and 9 ask for a last nibble of zero;
family 8 is told apart by the last nibble, and E and F by the low byte. A word
that none of these admits is no instruction.

`ofWord?` is left inverse to `Instruction.toWord` on what it accepts:
`toWord_of_ofWord?` recovers the word.
-/

namespace Chip8

/-- A word that is no instruction, with the place it was met at, if any. -/
structure UnknownWord where
  word : Word
  address : Option Int
  deriving DecidableEq, Repr

namespace Instruction

def ofArithmetic? (x y : Register) : Nat → Option Instruction
  | 0x0 => some (loadReg x y)
  | 0x1 => some (or x y)
  | 0x2 => some (and x y)
  | 0x3 => some (xor x y)
  | 0x4 => some (addReg x y)
  | 0x5 => some (sub x y)
  | 0x6 => some (shiftRight x y)
  | 0x7 => some (subReverse x y)
  | 0xE => some (shiftLeft x y)
  | _ => none

def ofKeys? (x : Register) : Nat → Option Instruction
  | 0x9E => some (skipKey x)
  | 0xA1 => some (skipNotKey x)
  | _ => none

def ofTransfer? (x : Register) : Nat → Option Instruction
  | 0x07 => some (readDelay x)
  | 0x0A => some (waitKey x)
  | 0x15 => some (setDelay x)
  | 0x18 => some (setSound x)
  | 0x1E => some (addIndex x)
  | 0x29 => some (loadGlyph x)
  | 0x33 => some (storeDecimal x)
  | 0x55 => some (storeRegs x)
  | 0x65 => some (loadRegs x)
  | _ => none

/-- Family 0: two words of their own, and calls of host code. -/
def ofSystem (nnn : Address) : Instruction :=
  if nnn.val = 0x0E0 then clear
  else if nnn.val = 0x0EE then ret
  else system nnn

def ofWord? (w : Word) : Option Instruction :=
  match w.family.val with
  | 0x0 => some (ofSystem w.nnn)
  | 0x1 => some (jump w.nnn)
  | 0x2 => some (call w.nnn)
  | 0x3 => some (skipEqByte w.x w.kk)
  | 0x4 => some (skipNeByte w.x w.kk)
  | 0x5 => if w.n.val = 0 then some (skipEqReg w.x w.y) else none
  | 0x6 => some (loadByte w.x w.kk)
  | 0x7 => some (addByte w.x w.kk)
  | 0x8 => ofArithmetic? w.x w.y w.n.val
  | 0x9 => if w.n.val = 0 then some (skipNeReg w.x w.y) else none
  | 0xA => some (loadIndex w.nnn)
  | 0xB => some (jumpOffset w.nnn)
  | 0xC => some (random w.x w.kk)
  | 0xD => some (draw w.x w.y w.n)
  | 0xE => ofKeys? w.x w.kk.toNat
  | _ => ofTransfer? w.x w.kk.toNat

theorem wordOfAddress_eq {w : Word} {f : Nat} (h : w.family.val = f) :
    wordOfAddress f w.nnn = w := by
  apply UInt16.toNat.inj
  have := w.toNat_lt
  simp only [Word.family] at h
  simp only [wordOfAddress, Word.nnn, UInt16.toNat_ofNat']
  omega

theorem wordOfByte_eq {w : Word} {f : Nat} {k : UInt8} (h : w.family.val = f)
    (hk : w.kk.toNat = k.toNat) : wordOfByte f w.x k = w := by
  apply UInt16.toNat.inj
  have := w.toNat_lt
  simp only [Word.family] at h
  simp only [Word.kk, Word.toNat_low] at hk
  simp only [wordOfByte, Word.x, UInt16.toNat_ofNat', ← hk]
  omega

theorem wordOfRegs_eq {w : Word} {f n : Nat} (h : w.family.val = f)
    (hn : w.n.val = n) : wordOfRegs f w.x w.y n = w := by
  apply UInt16.toNat.inj
  have := w.toNat_lt
  simp only [Word.family] at h
  simp only [Word.n] at hn
  simp only [wordOfRegs, Word.x, Word.y, UInt16.toNat_ofNat', ← hn]
  omega

theorem toWord_ofSystem {w : Word} (h : w.family.val = 0) :
    (ofSystem w.nnn).toWord = w := by
  have hw : w.toNat = w.nnn.val := by
    have := w.toNat_lt
    simp only [Word.family] at h
    simp only [Word.nnn]
    omega
  unfold ofSystem
  split
  next hn => exact UInt16.toNat.inj (hn ▸ hw).symm
  next =>
    split
    next hn => exact UInt16.toNat.inj (hn ▸ hw).symm
    next => exact wordOfAddress_eq h

theorem toWord_of_ofArithmetic? {w : Word} {i : Instruction}
    (h : w.family.val = 8) (hi : ofArithmetic? w.x w.y w.n.val = some i) :
    i.toWord = w := by
  unfold ofArithmetic? at hi
  split at hi <;> cases hi <;> exact wordOfRegs_eq h ‹_›

theorem toWord_of_ofKeys? {w : Word} {i : Instruction}
    (h : w.family.val = 14) (hi : ofKeys? w.x w.kk.toNat = some i) :
    i.toWord = w := by
  unfold ofKeys? at hi
  split at hi <;> cases hi <;> exact wordOfByte_eq h ‹_›

theorem toWord_of_ofTransfer? {w : Word} {i : Instruction}
    (h : w.family.val = 15) (hi : ofTransfer? w.x w.kk.toNat = some i) :
    i.toWord = w := by
  unfold ofTransfer? at hi
  split at hi <;> cases hi <;> exact wordOfByte_eq h ‹_›

/-- Reading loses nothing: the word can be written back. -/
theorem toWord_of_ofWord? {w : Word} {i : Instruction}
    (h : ofWord? w = some i) :
    i.toWord = w := by
  unfold ofWord? at h
  split at h
  case h_1 hf => cases h; exact toWord_ofSystem hf
  case h_2 hf => cases h; exact wordOfAddress_eq hf
  case h_3 hf => cases h; exact wordOfAddress_eq hf
  case h_4 hf => cases h; exact wordOfByte_eq hf rfl
  case h_5 hf => cases h; exact wordOfByte_eq hf rfl
  case h_6 hf =>
    split at h
    next hn => cases h; exact wordOfRegs_eq hf hn
    next => cases h
  case h_7 hf => cases h; exact wordOfByte_eq hf rfl
  case h_8 hf => cases h; exact wordOfByte_eq hf rfl
  case h_9 hf => exact toWord_of_ofArithmetic? hf h
  case h_10 hf =>
    split at h
    next hn => cases h; exact wordOfRegs_eq hf hn
    next => cases h
  case h_11 hf => cases h; exact wordOfAddress_eq hf
  case h_12 hf => cases h; exact wordOfAddress_eq hf
  case h_13 hf => cases h; exact wordOfByte_eq hf rfl
  case h_14 hf => cases h; exact wordOfRegs_eq hf rfl
  case h_15 hf => exact toWord_of_ofKeys? hf h
  case h_16 =>
    have hf : w.family.val = 15 := by have := w.family.isLt; grind
    exact toWord_of_ofTransfer? hf h

/-- Reading a word met at an address; a word that is no instruction is reported
with that address. -/
def decode (w : Word) (address : Option Int) :
    Except UnknownWord Instruction :=
  match ofWord? w with
  | some i => .ok i
  | none => .error ⟨w, address⟩

end Instruction

end Chip8
