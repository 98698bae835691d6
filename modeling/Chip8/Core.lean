import Chip8.CallStack
import Chip8.Event
import Chip8.Keypad.Wait
import Chip8.Memory
import Chip8.Random
import Chip8.Registers
import Chip8.Screen

/-!
# The core of the machine

All that an instruction can see or change: registers, memory, call stack,
screen, keypad and random source, with the key events that are going to arrive
while the machine waits for a key, and the events that it reported.

Every access to memory goes through `Core.readByte` and `Core.writeByte`, which
report it if it lies outside the address space.
-/

namespace Chip8

structure Core (ρ : Type) where
  registers : Registers := Registers.powerOn
  memory : Memory := Memory.powerOn
  stack : CallStack := CallStack.empty
  screen : Screen := Screen.powerOn
  keypad : Keypad := Keypad.powerOn
  /-- What arrives at the keypad while the machine waits for a key, a batch for
  each time it yields. -/
  arrivals : List (List KeyEvent) := []
  random : ρ
  /-- What was reported, newest first. -/
  events : List Event := []

inductive Outcome (α : Type) where
  | done (a : α)
  /-- It waits for a key, and none is going to be held. -/
  | stalled (a : α)
  /-- It broke off at a value that does not fit into its register. -/
  | unfit (a : α)

namespace Core

variable {ρ : Type}

def report (c : Core ρ) (e : Event) : Core ρ :=
  { c with events := e :: c.events }

def reportFault (c : Core ρ) (kind : AccessKind) (a : Int) : Core ρ :=
  match Memory.fault? kind a with
  | some f => c.report (.fault f)
  | none => c

def readByte (c : Core ρ) (a : Int) : UInt8 × Core ρ :=
  let (b, memory) := c.memory.read a
  (b, { c with memory }.reportFault .read a)

def writeByte (c : Core ρ) (a : Int) (b : UInt8) : Core ρ :=
  { c with memory := c.memory.write a b }.reportFault .write a

def writeBytes (c : Core ρ) (base : Int) : List UInt8 → Core ρ
  | [] => c
  | b :: rest => writeBytes (c.writeByte base b) (base + 1) rest

/-- Reads the word at an address, high byte first. -/
def readWord (c : Core ρ) (a : Int) : Word × Core ρ :=
  let (hi, c) := c.readByte a
  let (lo, c) := c.readByte (a + 1)
  (Word.ofBytes hi lo, c)

def poll (c : Core ρ) : Core ρ :=
  { c with
    keypad := c.keypad.poll
    events := (c.keypad.queue.map .key).reverse ++ c.events }

def mapRegisters (c : Core ρ) (f : Registers → Registers) : Core ρ :=
  { c with registers := f c.registers }

def get (c : Core ρ) (x : Register) : UInt8 :=
  c.registers.get x

def set (c : Core ρ) (x : Register) (b : UInt8) : Core ρ :=
  c.mapRegisters (·.set x b)

def goTo (c : Core ρ) (a : Int) : Core ρ :=
  c.mapRegisters fun r => { r with pc := a }

def skipIf (c : Core ρ) (condition : Bool) : Core ρ :=
  c.mapRegisters (·.skipIf condition)

def pushCall (c : Core ρ) (a : Int) : Core ρ :=
  let (sp, stack) := c.stack.push c.registers.sp (Word.ofInt a)
  { c with stack, registers := { c.registers with sp } }

def popCall (c : Core ρ) : Word × Core ρ :=
  let (a, sp) := c.stack.pop c.registers.sp
  (a, { c with registers := { c.registers with sp } })

end Core

end Chip8
