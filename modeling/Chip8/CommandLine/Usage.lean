import Chip8.CommandLine.Grammar

/-!
# Usage

The options of the tool and of each of its commands, and the texts that explain
them. The first paragraph of a help text, the usage, also stands above the
message about arguments that cannot be understood.
-/

namespace Chip8.CommandLine

def toolName : String := "chip8kit"

def version : String := "1.0.0"

inductive Verb where
  | run
  | disasm
  | info
  deriving DecidableEq, Repr

def Verb.name : Verb → String
  | .run => "run"
  | .disasm => "disasm"
  | .info => "info"

def Verb.all : List Verb := [.run, .disasm, .info]

def Verb.ofName? (name : String) : Option Verb :=
  Verb.all.find? (·.name = name)

inductive OptionId where
  | help
  | version
  | hz
  | cycles
  | headless
  | shiftVy
  | seed
  | logDir
  | verbose
  | base
  | output
  deriving DecidableEq, Repr

def helpOption : OptionSpec OptionId := ⟨.help, ["-h", "--help"], false⟩

def toolOptions : List (OptionSpec OptionId) :=
  [helpOption, ⟨.version, ["--version"], false⟩]

def Verb.options : Verb → List (OptionSpec OptionId)
  | .run =>
    [helpOption, ⟨.hz, ["--hz"], true⟩, ⟨.cycles, ["--cycles"], true⟩,
      ⟨.headless, ["--headless"], false⟩, ⟨.shiftVy, ["--shift-vy"], false⟩,
      ⟨.seed, ["--seed"], true⟩, ⟨.logDir, ["--log-dir"], true⟩,
      ⟨.verbose, ["--verbose", "-v"], false⟩]
  | .disasm =>
    [helpOption, ⟨.base, ["--base"], true⟩,
      ⟨.output, ["-o", "--output"], true⟩]
  | .info => [helpOption]

/-- An explanation: its usage, and what follows it. -/
structure Usage where
  usage : List String
  details : List String

def linesText (lines : List String) : String :=
  String.join (lines.map (· ++ "\n"))

def Usage.short (u : Usage) : String :=
  linesText u.usage

def Usage.full (u : Usage) : String :=
  linesText (u.usage ++ "" :: u.details)

def toolUsage : Usage where
  usage := ["usage: chip8kit [-h] [--version] command ..."]
  details := [
    "CHIP-8 Toolkit — run, disassemble, inspect ROMs",
    "",
    "positional arguments:",
    "  command",
    "    run       Run a ROM",
    "    disasm    Disassemble a ROM",
    "    info      Summarize a ROM file",
    "",
    "options:",
    "  -h, --help  show this help message and exit",
    "  --version   show program's version number and exit",
    "",
    "commands:",
    "  run        Run a ROM (terminal display + keyboard, or headless)",
    "  disasm     Disassemble a ROM to CHIP-8 mnemonics",
    "  info       Summarize a ROM file"]

def Verb.usage : Verb → Usage
  | .run => {
      usage := [
        "usage: chip8kit run [-h] [--hz HZ] [--cycles CYCLES] [--headless] [--shift-vy]",
        "                    [--seed SEED] [--log-dir LOG_DIR] [--verbose]",
        "                    input"]
      details := [
        "positional arguments:",
        "  input              ROM file",
        "",
        "options:",
        "  -h, --help         show this help message and exit",
        "  --hz HZ            CPU clock in instructions/second (default 500)",
        "  --cycles CYCLES    Stop after N instructions (default: run until Esc; Esc is",
        "                     ignored during a key wait, use Ctrl-C)",
        "  --headless         No terminal display, keyboard or bell",
        "  --shift-vy         SHR/SHL shift Vy into Vx (COSMAC VIP behaviour)",
        "  --seed SEED        Seed for RND",
        "  --log-dir LOG_DIR  Also write a debug log file here",
        "  --verbose, -v      Show INFO messages and a final register dump"] }
  | .disasm => {
      usage := ["usage: chip8kit disasm [-h] [--base BASE] [-o OUTPUT] input"]
      details := [
        "positional arguments:",
        "  input                 ROM file",
        "",
        "options:",
        "  -h, --help            show this help message and exit",
        "  --base BASE           Load address (hex, default $200)",
        "  -o OUTPUT, --output OUTPUT",
        "                        Output file (default: stdout)"] }
  | .info => {
      usage := ["usage: chip8kit info [-h] input"]
      details := [
        "positional arguments:",
        "  input       ROM file",
        "",
        "options:",
        "  -h, --help  show this help message and exit"] }

def Verb.program (v : Verb) : String :=
  toolName ++ " " ++ v.name

end Chip8.CommandLine
