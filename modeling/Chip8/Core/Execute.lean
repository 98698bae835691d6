import Chip8.Arithmetic
import Chip8.Core
import Chip8.Screen.Sprite

/-!
# Executing instructions

`Core.execute` is the effect of each instruction. The program counter already
points past the instruction, so a skip adds two more and a jump replaces it.
Results are written before flags, so the flag wins where both go to `VF`.
Arithmetic wraps at the width of its register; the index register is never cut
to the address space, only the accesses made through it can fault.

All instructions end, but for two: the wait for a key stalls if no key is going
to be held, and the delay timer cannot be read while it holds no byte, which it
never does unless it was set so from outside.
-/

namespace Chip8.Core

variable {ρ : Type}

def setFlagged (c : Core ρ) (x : Register) (r : Arithmetic.Flagged) : Core ρ :=
  c.mapRegisters (·.setFlagged x r.value (Arithmetic.flagByte r.flag))

def registersUpTo (x : Register) : List Register :=
  (List.finRange 16).filter (· ≤ x)

/-- The address `k` places past the index register. -/
def indexed (c : Core ρ) (k : Nat) : Int :=
  c.registers.index + k

def ignoreSystem (c : Core ρ) (nnn : Address) : Core ρ :=
  c.report (.systemIgnored nnn (Word.ofInt (c.registers.pc - 2)))

def call (c : Core ρ) (nnn : Address) : Core ρ :=
  (c.pushCall c.registers.pc).goTo nnn.val

def ret (c : Core ρ) : Core ρ :=
  let (a, c) := c.popCall
  c.goTo a.toNat

def loadRandom [RandomSource ρ] (c : Core ρ) (x : Register) (mask : UInt8) :
    Core ρ :=
  let (b, random) := RandomSource.draw c.random
  { c with random }.set x (b &&& mask)

def storeDecimal (c : Core ρ) (x : Register) : Core ρ :=
  let d := Arithmetic.decimal (c.get x).toNat
  ((c.writeByte (c.indexed 0) d.hundreds).writeByte
    (c.indexed 1) d.tens).writeByte (c.indexed 2) d.units

/-- Stores `V0` to `Vx`; the index register keeps its value. -/
def storeRegs (c : Core ρ) (x : Register) : Core ρ :=
  (registersUpTo x).foldl
    (fun c r => c.writeByte (c.indexed r.val) (c.get r)) c

def loadReg (c : Core ρ) (r : Register) : Core ρ :=
  let (b, c) := c.readByte (c.indexed r.val)
  c.set r b

def loadRegs (c : Core ρ) (x : Register) : Core ρ :=
  (registersUpTo x).foldl loadReg c

def drawRow (x y : UInt8) (s : Core ρ × Sprite.Drawing) (r : Nat) :
    Core ρ × Sprite.Drawing :=
  let (b, c) := s.1.readByte (s.1.indexed r)
  (c, Sprite.drawRow s.2 x.toNat (Sprite.row y.toNat r) b)

/-- Draws `n` rows at a place; both axes wrap. The screen counts as touched
even if no pixel changed. -/
def draw (c : Core ρ) (x y : UInt8) (n : Nibble) : Core ρ :=
  let (c, d) :=
    (List.range n.val).foldl (drawRow x y) (c, ⟨c.screen.frame, false⟩)
  { c with screen := ⟨d.frame, true⟩ }.set flagRegister
    (Arithmetic.flagByte d.collision)

def readDelay (c : Core ρ) (x : Register) : Outcome (Core ρ) :=
  match Registers.byte? c.registers.delay with
  | some b => .done (c.set x b)
  | none => .unfit c

def waitKey (c : Core ρ) (x : Register) : Outcome (Core ρ) :=
  let c := c.report (.waiting x)
  let w := c.keypad.wait c.arrivals
  let c := { c with
    keypad := w.keypad
    arrivals := w.arrivals
    events := (w.applied.map .key).reverse ++ c.events }
  match w.key? with
  | some key => .done (c.set x (UInt8.ofNat key.val))
  | none => .stalled c

def keyHeld (c : Core ρ) (x : Register) : Bool :=
  c.keypad.snapshot.isHeld (Key.ofInt (c.get x).toNat)

/-- The register that a shift takes its bits from. -/
def shiftSource (c : Core ρ) (shiftUsesVy : Bool) (x y : Register) : Nat :=
  (if shiftUsesVy then c.get y else c.get x).toNat

def execute [RandomSource ρ] (shiftUsesVy : Bool) (c : Core ρ) :
    Instruction → Outcome (Core ρ)
  -- the flow of control
  | .jump nnn => .done (c.goTo nnn.val)
  | .jumpOffset nnn =>
    .done (c.goTo ((c.get offsetRegister).toNat + nnn.val : Nat))
  | .call nnn => .done (c.call nnn)
  | .ret => .done c.ret
  | .system nnn => .done (c.ignoreSystem nnn)
  | .skipEqByte x kk => .done (c.skipIf (c.get x == kk))
  | .skipNeByte x kk => .done (c.skipIf (c.get x != kk))
  | .skipEqReg x y => .done (c.skipIf (c.get x == c.get y))
  | .skipNeReg x y => .done (c.skipIf (c.get x != c.get y))
  | .skipKey x => .done (c.skipIf (c.keyHeld x))
  | .skipNotKey x => .done (c.skipIf (!c.keyHeld x))
  -- general registers
  | .loadByte x kk => .done (c.set x kk)
  | .loadReg x y => .done (c.set x (c.get y))
  | .addByte x kk =>
    .done (c.set x (Arithmetic.addWrapping (c.get x).toNat kk.toNat))
  | .or x y => .done (c.set x (c.get x ||| c.get y))
  | .and x y => .done (c.set x (c.get x &&& c.get y))
  | .xor x y => .done (c.set x (c.get x ^^^ c.get y))
  | .addReg x y =>
    .done (c.setFlagged x (Arithmetic.add (c.get x).toNat (c.get y).toNat))
  | .sub x y =>
    .done (c.setFlagged x (Arithmetic.sub (c.get x).toNat (c.get y).toNat))
  | .subReverse x y =>
    .done (c.setFlagged x (Arithmetic.sub (c.get y).toNat (c.get x).toNat))
  | .shiftRight x y =>
    .done (c.setFlagged x
      (Arithmetic.shiftRight (c.shiftSource shiftUsesVy x y)))
  | .shiftLeft x y =>
    .done (c.setFlagged x
      (Arithmetic.shiftLeft (c.shiftSource shiftUsesVy x y)))
  | .random x kk => .done (c.loadRandom x kk)
  | .readDelay x => c.readDelay x
  | .waitKey x => c.waitKey x
  -- timers and index register
  | .setDelay x =>
    .done (c.mapRegisters fun r => { r with delay := (r.get x).toNat })
  | .setSound x =>
    .done (c.mapRegisters fun r => { r with sound := (r.get x).toNat })
  | .loadIndex nnn =>
    .done (c.mapRegisters fun r => { r with index := nnn.val })
  | .addIndex x =>
    .done (c.mapRegisters fun r =>
      { r with index := Registers.wrap16 (r.index + (r.get x).toNat) })
  | .loadGlyph x =>
    .done (c.mapRegisters fun r =>
      { r with index := Glyph.addressOf (r.get x).toNat })
  -- screen and memory
  | .clear => .done { c with screen := c.screen.clear }
  | .draw x y n => .done (c.draw (c.get x) (c.get y) n)
  | .storeDecimal x => .done (c.storeDecimal x)
  | .storeRegs x => .done (c.storeRegs x)
  | .loadRegs x => .done (c.loadRegs x)

end Chip8.Core
