import Chip8.CommandLine.Usage
import Chip8.Config
import Chip8.Text.IntLiteral

/-!
# Commands

A command line that was understood is a `Command` with its settings. One that
was not, or that only asks for an explanation, is settled early (`Early`): by a
help text, the version, or a message.

Options take effect in the order in which they stand, so the first one that
settles the command line decides; what cannot be read counts where reading
ended, and a missing operand and arguments that belong to nothing count last.

An option that was left without its value is no reason for a refusal. It is
kept as such, and the command fails when it comes to need the value.
-/

namespace Chip8.CommandLine

inductive Setting (α : Type) where
  | value (a : α)
  /-- The option was left without its value. -/
  | blank
  deriving DecidableEq, Repr

structure RunSettings where
  input : String := ""
  hz : Setting Int := .value defaultHz
  /-- The ticks to be done; without the option the run goes on until it is
  ended. -/
  cycles? : Option (Setting Int) := none
  headless : Bool := false
  shiftVy : Bool := false
  seed? : Option (Setting Int) := none
  logDirectory? : Option String := none
  verbose : Bool := false
  deriving DecidableEq, Repr

structure ListingSettings where
  input : String := ""
  /-- The load address as it was given. -/
  base? : Option (Setting String) := none
  /-- The file to be written; without one the listing is shown. -/
  output? : Option String := none
  deriving DecidableEq, Repr

inductive Command where
  | run (s : RunSettings)
  | disasm (s : ListingSettings)
  | info (input : String)
  deriving DecidableEq, Repr

def Command.paths : Command → List String
  | .run s => [s.input]
  | .disasm s => s.input :: s.output?.toList
  | .info input => [input]

def Command.target? : Command → Option String
  | .disasm s => s.output?
  | .run _ | .info _ => none

def Command.listens : Command → Bool
  | .run s => !s.headless
  | .disasm _ | .info _ => false

inductive ArgumentError where
  | grammar (e : GrammarError)
  | notInteger (option value : String)
  | unknownCommand (name : String)
  | missingInput
  | unrecognized (args : List String)
  deriving DecidableEq, Repr

def ArgumentError.message : ArgumentError → String
  | grammar e => e.message
  | notInteger option value =>
    "argument " ++ option ++ ": invalid int value: " ++ Text.quoted value
  | unknownCommand name =>
    "argument command: invalid choice: " ++ Text.quoted name ++
      " (choose from " ++
      ", ".intercalate (Verb.all.map fun v => Text.quoted v.name) ++ ")"
  | missingInput => "the following arguments are required: input"
  | unrecognized args => "unrecognized arguments: " ++ " ".intercalate args

/-- A command line that is settled without a command being carried out. -/
inductive Early where
  | help (u : Usage)
  | version
  | refused (program : String) (u : Usage) (e : ArgumentError)

def Verb.refuse (v : Verb) (e : ArgumentError) : Early :=
  .refused v.program v.usage e

def refuseTool (e : ArgumentError) : Early :=
  .refused toolName toolUsage e

def intSetting (v : Verb) (option : String) :
    Option String → Except Early (Setting Int)
  | none => .ok .blank
  | some value =>
    match Text.intLiteral? 10 value with
    | some z => .ok (.value z)
    | none => .error (v.refuse (.notInteger option value))

def textSetting : Option String → Setting String
  | none => .blank
  | some value => .value value

/-- Settings in the making, with whether the operand was found. -/
structure Draft (α : Type) where
  settings : α
  complete : Bool := false

def addToRun (d : Draft RunSettings) :
    Finding OptionId → Except Early (Draft RunSettings)
  | .operand args =>
    .ok ⟨{ d.settings with input := args.headD "" }, true⟩
  | .option .help _ => .error (.help (Verb.usage .run))
  | .option .hz value? => do
    let hz ← intSetting .run "--hz" value?
    return { d with settings := { d.settings with hz } }
  | .option .cycles value? => do
    let cycles ← intSetting .run "--cycles" value?
    return { d with settings := { d.settings with cycles? := some cycles } }
  | .option .seed value? => do
    let seed ← intSetting .run "--seed" value?
    return { d with settings := { d.settings with seed? := some seed } }
  | .option .headless _ =>
    .ok { d with settings := { d.settings with headless := true } }
  | .option .shiftVy _ =>
    .ok { d with settings := { d.settings with shiftVy := true } }
  | .option .verbose _ =>
    .ok { d with settings := { d.settings with verbose := true } }
  | .option .logDir value? =>
    .ok { d with settings := { d.settings with logDirectory? := value? } }
  | .option _ _ => .ok d

def addToListing (d : Draft ListingSettings) :
    Finding OptionId → Except Early (Draft ListingSettings)
  | .operand args =>
    .ok ⟨{ d.settings with input := args.headD "" }, true⟩
  | .option .help _ => .error (.help (Verb.usage .disasm))
  | .option .base value? =>
    .ok { d with
      settings := { d.settings with base? := some (textSetting value?) } }
  | .option .output value? =>
    .ok { d with settings := { d.settings with output? := value? } }
  | .option _ _ => .ok d

def addToInfo (d : Draft String) :
    Finding OptionId → Except Early (Draft String)
  | .operand args => .ok ⟨args.headD "", true⟩
  | .option .help _ => .error (.help (Verb.usage .info))
  | .option _ _ => .ok d

def readSettings {α : Type} (v : Verb)
    (add : Draft α → Finding OptionId → Except Early (Draft α)) (outset : α)
    (args : List String) : Except Early (α × List String) := do
  match read v.options .one args with
  | .error e => throw (v.refuse (.grammar e))
  | .ok r =>
    let d ← r.findings.foldlM add ⟨outset, false⟩
    if let some e := r.fault? then throw (v.refuse (.grammar e))
    if !d.complete then throw (v.refuse .missingInput)
    return (d.settings, r.extras)

def Verb.read : Verb → List String → Except Early (Command × List String)
  | .run, args =>
    (readSettings .run addToRun {} args).map fun (s, extras) =>
      (.run s, extras)
  | .disasm, args =>
    (readSettings .disasm addToListing {} args).map fun (s, extras) =>
      (.disasm s, extras)
  | .info, args =>
    (readSettings .info addToInfo "" args).map fun (s, extras) =>
      (.info s, extras)

def addToTool (found? : Option (Command × List String)) :
    Finding OptionId → Except Early (Option (Command × List String))
  | .option .help _ => .error (.help toolUsage)
  | .option .version _ => .error .version
  | .option _ _ => .ok found?
  | .operand args =>
    let name := args.headD ""
    match Verb.ofName? name with
    | none => .error (refuseTool (.unknownCommand name))
    | some v => (v.read args.tail).map some

def Command.ofArgs (args : List String) : Except Early Command := do
  match CommandLine.read toolOptions .rest args with
  | .error e => throw (refuseTool (.grammar e))
  | .ok r =>
    let found? ← r.findings.foldlM addToTool none
    if let some e := r.fault? then throw (refuseTool (.grammar e))
    let extras := r.extras ++ (found?.map (·.2)).getD []
    if !extras.isEmpty then throw (refuseTool (.unrecognized extras))
    match found? with
    | some (command, _) => return command
    | none => throw (.help toolUsage)

end Chip8.CommandLine
