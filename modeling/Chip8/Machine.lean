import Chip8.Config
import Chip8.Core.Execute
import Chip8.Device
import Chip8.FrameDivider
import Chip8.Machine.Trace

/-!
# The machine

A machine is its core with the frame divider, the devices and some bookkeeping.
`Machine.step` is one tick: key events are applied, a word is fetched, the
program counter is moved past it, and the word is executed or, if it is no
instruction, counted and skipped. At a frame boundary `Machine.frameWork`
follows: a touched screen is shown, and the timers count down, the sound timer
switching the tone.

Nothing stops a machine. A tick that waits for a key in vain is stalled, and
one that reads a delay timer without a byte is broken off: it is left there,
with the program counter moved on and nothing else of the tick done.
-/

namespace Chip8

/-- How long the ticks since the last report took. -/
structure Meter where
  ticks : Nat := 0
  nanoseconds : Int := 0
  deriving DecidableEq, Repr

/-- A machine: `ρ` yields its random numbers, `δ` takes its signals. -/
structure Machine (ρ δ : Type) where
  config : Config
  core : Core ρ
  divider : FrameDivider
  devices : δ
  /-- The fetched words that were no instruction. -/
  unknownCount : Nat := 0
  trace : Trace := {}
  meter : Meter := {}

inductive Tick (ρ δ : Type) where
  /-- The tick was completed; `none` stands for a word that is no
  instruction. -/
  | done (instruction? : Option Instruction) (m : Machine ρ δ)
  | stalled (m : Machine ρ δ)
  /-- The tick was broken off at a value that does not fit into its
  register. -/
  | unfit (m : Machine ρ δ)

namespace Machine

variable {ρ δ : Type}

def powerOn (config : Config) (random : ρ) (devices : δ) : Machine ρ δ where
  config
  core := { random, events := [.powerOn config.hz config.ticksPerFrame] }
  divider := FrameDivider.start config.ticksPerFrame config.ticksPerFrame_pos
  devices

def mapCore (m : Machine ρ δ) (f : Core ρ → Core ρ) : Machine ρ δ :=
  { m with core := f m.core }

def mapRegisters (m : Machine ρ δ) (f : Registers → Registers) :
    Machine ρ δ :=
  m.mapCore (·.mapRegisters f)

def load (m : Machine ρ δ) (name : String) (base : Int) (data : List UInt8) :
    Machine ρ δ :=
  m.mapCore fun c =>
    (c.writeBytes base data).report (.loaded name base data.length)

def send [Devices δ] (m : Machine ρ δ) (signal : Signal) : Machine ρ δ :=
  { m with devices := Devices.receive signal m.devices }

def handOver [Devices δ] (m : Machine ρ δ) : Machine ρ δ :=
  if m.core.screen.dirty then
    (m.send (.present m.core.screen.frame)).mapCore fun c =>
      { c with screen := { c.screen with dirty := false } }
  else m

def decayDelay (m : Machine ρ δ) : Machine ρ δ :=
  m.mapRegisters fun r =>
    if 0 < r.delay then { r with delay := r.delay - 1 } else r

/-- Counts the sound timer down. The tone is switched on while it runs, and off
when it reaches zero. -/
def decaySound [Devices δ] (m : Machine ρ δ) : Machine ρ δ :=
  let sound := m.core.registers.sound
  if 0 < sound then
    let m := (m.send .startTone).mapRegisters fun r =>
      { r with sound := sound - 1 }
    if sound = 1 then m.send .stopTone else m
  else m

def frameWork [Devices δ] (m : Machine ρ δ) : Machine ρ δ :=
  m.handOver.decayDelay.decaySound

def frameWorks [Devices δ] : Nat → Machine ρ δ → Machine ρ δ
  | 0, m => m
  | n + 1, m => frameWorks n m.frameWork

def finishTick [Devices δ] (m : Machine ρ δ) : Machine ρ δ :=
  frameWorks (m.divider.elapsed 1).toNat <|
    { m with divider := m.divider.advance 1 }.mapRegisters
      fun r => { r with cycles := r.cycles + 1 }

def countUnknown (m : Machine ρ δ) (w : Word) (pc : Int) : Machine ρ δ :=
  { m.mapCore (·.report (.unknown ⟨w, some pc⟩)) with
    unknownCount := m.unknownCount + 1 }

/-- Applies key events, fetches a word and moves the program counter past
it. -/
def fetch (m : Machine ρ δ) : Word × Machine ρ δ :=
  let c := m.core.poll
  let pc := c.registers.pc
  let (w, c) := c.readWord pc
  (w, { m with core := c.goTo (Registers.wrap16 (pc + 2)) })

def step [RandomSource ρ] [Devices δ] (m : Machine ρ δ) : Tick ρ δ :=
  let pc := m.core.registers.pc
  let (w, m) := m.fetch
  match Instruction.ofWord? w with
  | none => .done none (m.countUnknown w pc).finishTick
  | some i =>
    let m := { m with trace := m.trace.note pc w i m.core.registers }
    match m.core.execute m.config.shiftUsesVy i with
    | .done core => .done (some i) { m with core }.finishTick
    | .stalled core => .stalled { m with core }
    | .unfit core => .unfit { m with core }

/-- Registers, screen, keypad, divider and trace as at power-on. The contents
of memory and of the call stack stay, and so do the faults. -/
def reset [Devices δ] (m : Machine ρ δ) : Machine ρ δ :=
  { m with
    core := { m.core with
      registers := Registers.powerOn
      screen := m.core.screen.clear
      keypad := Keypad.powerOn }
    devices := Devices.receive .stopTone m.devices
    divider := m.divider.reset
    unknownCount := 0
    trace := m.trace.clear }

def account (m : Machine ρ δ) (elapsed : Int) : Machine ρ δ :=
  { m with meter := ⟨m.meter.ticks + 1, m.meter.nanoseconds + elapsed⟩ }

/-- Reports the speed once the ticks of a second are together; `none` if they
took too long to be told. -/
def reportSpeed? (m : Machine ρ δ) : Option (Machine ρ δ) :=
  if m.meter.ticks < m.config.hz then some m
  else if Numeric.hasFloat m.meter.nanoseconds then
    some { m.mapCore (·.report (.speed m.config.hz m.meter.nanoseconds)) with
      meter := {} }
  else none

end Machine

end Chip8
