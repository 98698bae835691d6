import Chip8.CommandLine.Command
import Chip8.Disk
import Chip8.Summary
import Chip8.Device.Bell
import Chip8.Device.Panel
import Chip8.KeySource.Reader
import Chip8.Machine.Run
import Chip8.Pacing.Simulated
import Chip8.Random.Twister

/-!
# Carrying out commands

A command is carried out on a `World`: files, what is typed, a seed to fall
back on, and a bound on the ticks of a run that has no other. The answer is a
`Reply`: what is written to the two outputs, the exit code if the tool does not
just return, and the files after that.

A run takes everything that is typed before its first tick. Its configuration
is checked before its program is read, and what else it needs after that.
-/

namespace Chip8.CommandLine

structure World where
  disk : Disk := {}
  typed : List UInt8 := []
  /-- The seed of a run that was given none. -/
  entropy : Int := 0
  /-- The most ticks of a run that is not limited. -/
  patience : Nat
  columns : Nat := 80

structure Reply where
  /-- The exit code; `none` if the tool returns. -/
  exit? : Option Nat := none
  out : String := ""
  err : String := ""
  disk : Disk

inductive Failure where
  | disk (e : DiskError)
  | config (e : ConfigError)
  | base (literal : String)
  | blankRate
  | blankSeed
  | blankLimit
  | blankBase
  | title (e : Text.Markup.Error)
  deriving DecidableEq, Repr

/-- What is said of a failed command on an input. A file that was not found is
always reported under the name of the input. -/
def Failure.message (input : String) : Failure → String
  | disk ⟨.notFound, _⟩ => "File not found: " ++ input
  | disk e => e.message
  | config e => e.message
  | base literal =>
    "invalid literal for int() with base 16: " ++
      String.ofList ((Text.quoted literal).toList.take 200)
  | blankRate => "'<=' not supported between instances of 'list' and 'int'"
  | blankSeed =>
    "The only supported seed types are: None,\n" ++
      "int, float, str, bytes, and bytearray."
  | blankLimit => "'<' not supported between instances of 'int' and 'list'"
  | blankBase => "'list' object has no attribute 'strip'"
  | title e => e.message

def needValue {α : Type} (e : Failure) : Setting α → Except Failure α
  | .value a => .ok a
  | .blank => .error e

def needValue? {α : Type} (e : Failure) :
    Option (Setting α) → Except Failure (Option α)
  | none => .ok none
  | some s => (needValue e s).map some

/-- Reads a load address, which may begin with `0x` or `$`. -/
def readBase (given : String) : Except Failure Int :=
  let literal := String.ofList <|
    match Text.strip given.toList with
    | '$' :: rest => rest
    | cs => cs
  match Text.intLiteral? 16 literal with
  | some z => .ok z
  | none => .error (.base literal)

def World.read (w : World) (path : String) : Except Failure (List UInt8) :=
  (w.disk.read path).mapError .disk

def performListing (w : World) (s : ListingSettings) :
    Except Failure (String × Disk) := do
  let data ← w.read s.input
  let base ←
    match ← needValue? .blankBase s.base? with
    | none => pure (programStart : Int)
    | some given => readBase given
  let text := Listing.text (Listing.ofBytes true base 0 data) ++ "\n"
  match s.output? with
  | none | some "" => return (text, w.disk)
  | some path =>
    let disk ← (w.disk.write path text.toUTF8.toList).mapError .disk
    return (
      "Disassembled " ++ toString data.length ++ " bytes -> " ++ path ++ "\n",
      disk)

def performInfo (w : World) (input : String) : Except Failure String := do
  let data ← w.read input
  return linesText ((Summary.ofProgram data).lines input)

def RunSettings.report {ρ δ : Type} (s : RunSettings) (m : Machine ρ δ)
    (executed : Nat) : String :=
  let counts := "Executed " ++ Text.grouped executed ++ " instructions (" ++
    toString m.unknownCount ++ " unknown, " ++
    toString m.core.memory.faults.count ++ " out-of-range)"
  let screen := m.core.screen.frame.plain "#" "."
  linesText <|
    (if s.verbose || s.headless then [counts, m.core.registers.text]
     else []) ++
    (if s.headless && s.verbose then [screen] else [])

def startMachine {δ : Type} (w : World) (config : Config)
    (program : List UInt8) (devices : δ) : Machine Dice δ :=
  let dice := Dice.ofSeed (config.seed.getD w.entropy)
  (Machine.powerOn config dice devices).load "<bytes>" programStart program

/-- The end of a run: a tick that waits for a key in vain ends it like an
interrupt from the keyboard. -/
def runMachine {δ : Type} [Devices δ] (limit : Int) (quit : Bool)
    (m : Machine Dice δ) : Run Dice δ SimulatedClock :=
  let keeper : Timekeeper SimulatedClock :=
    { period := m.config.nanosPerTick, clock := {},
      period_pos := m.config.nanosPerTick_pos }
  m.run keeper false (fun _ => quit) limit

def typedKeys (w : World) : Reader Float :=
  let reader : Reader Float :=
    { source := KeySource.ofMap [], pipe := w.typed, now := 0 }
  reader.drain HoldPolicy.standard

def performRun (w : World) (s : RunSettings) : Except Failure String := do
  let hz ← needValue .blankRate s.hz
  let config ← (Config.ofHz hz s.shiftVy none).mapError .config
  let program ← w.read s.input
  let seed? ← needValue? .blankSeed s.seed?
  let cycles? ← needValue? .blankLimit s.cycles?
  let config := { config with seed := seed? }
  let limit := cycles?.getD w.patience
  if s.headless then
    let m :=
      startMachine w config program (({}, {}) : FrameRecord × ToneRecord)
    let r := runMachine limit false m
    return s.report r.machine r.executed
  else
    let keys := typedKeys w
    let panel : Panel := { width := w.columns, title := Disk.baseName s.input }
    let m := startMachine w config program (panel, ({} : Bell))
    let r := runMachine limit keys.source.quit
      (m.mapCore fun c => { c with keypad := keys.keypad })
    let shown ← r.machine.devices.1.close.1.mapError .title
    return shown ++ s.report r.machine r.executed

def failed (w : World) (input : String) (e : Failure) : Reply :=
  { exit? := some 1, err := "Error: " ++ e.message input ++ "\n",
    disk := w.disk }

def Command.perform (w : World) : Command → Reply
  | .run s =>
    match performRun w s with
    | .ok out => { out, disk := w.disk }
    | .error e => failed w s.input e
  | .disasm s =>
    match performListing w s with
    | .ok (out, disk) => { out, disk }
    | .error e => failed w s.input e
  | .info input =>
    match performInfo w input with
    | .ok out => { out, disk := w.disk }
    | .error e => failed w input e

def Early.reply (w : World) : Early → Reply
  | help u => { exit? := some 0, out := u.full, disk := w.disk }
  | version =>
    { exit? := some 0, out := toolName ++ " " ++ CommandLine.version ++ "\n",
      disk := w.disk }
  | refused program u e =>
    { exit? := some 2,
      err := u.short ++ program ++ ": error: " ++ e.message ++ "\n",
      disk := w.disk }

def perform (w : World) (args : List String) : Reply :=
  match Command.ofArgs args with
  | .ok command => command.perform w
  | .error early => early.reply w

end Chip8.CommandLine
