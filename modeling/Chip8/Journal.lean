import Chip8.Disk
import Chip8.Journal.Severity

/-!
# Journal

A logger with a threshold of its own and up to two outputs, each with another:
a file that takes everything from debug upwards, and the console, either in
colour or as plain lines. A record is written to an output if it reaches both
thresholds. Setting up a logger makes its file, with the directory that it is
to stand in, and writes a few records about the setup itself; setting it up
again changes nothing.

A logger that was never set up shows warnings and worse as bare messages.
-/

namespace Chip8.Journal

inductive OutputKind where
  | file
  | colourConsole
  | plainConsole
  deriving DecidableEq, Repr

structure Output where
  kind : OutputKind
  level : Int
  deriving DecidableEq, Repr

structure Record where
  level : Int
  message : String
  deriving DecidableEq, Repr

structure Settings where
  level : Int := Severity.debug.number
  consoleLevel : Int := Severity.warning.number
  directory? : Option String := none
  colourConsole : Bool := true

/-- A logger with the records that each output took, newest first. -/
structure Logger where
  name : String
  level : Int := unset
  outputs : List Output := []
  file? : Option String := none
  fileRecords : List Record := []
  consoleRecords : List Record := []
  /-- What was shown while the logger was not set up. -/
  bareRecords : List Record := []

namespace Logger

/-- The level that counts; a logger without one follows the warnings. -/
def effectiveLevel (l : Logger) : Int :=
  if l.level = unset then Severity.warning.number else l.level

def isEnabled (l : Logger) (level : Int) : Bool :=
  0 < level && l.effectiveLevel ≤ level

def deliver (r : Record) (l : Logger) (o : Output) : Logger :=
  if r.level < o.level then l
  else
    match o.kind with
    | .file => { l with fileRecords := r :: l.fileRecords }
    | .plainConsole => { l with consoleRecords := r :: l.consoleRecords }
    | .colourConsole => l

def log (l : Logger) (level : Int) (message : String) : Logger :=
  if !l.isEnabled level then l
  else if l.outputs.isEmpty then
    if level < Severity.warning.number then l
    else { l with bareRecords := ⟨level, message⟩ :: l.bareRecords }
  else l.outputs.foldl (deliver ⟨level, message⟩) l

def info (l : Logger) (message : String) : Logger :=
  l.log Severity.info.number message

def filePath (directory name stamp : String) : String :=
  Disk.tidy ((if directory.isEmpty then "" else directory ++ "/") ++
    name ++ "_" ++ stamp ++ ".log")

def begin (l : Logger) (s : Settings) (file? : Option String) : Logger :=
  let console : Output :=
    ⟨if s.colourConsole then .colourConsole else .plainConsole, s.consoleLevel⟩
  let outputs :=
    if file?.isSome then [⟨.file, Severity.debug.number⟩, console]
    else [console]
  let l := { l with level := s.level, outputs, file? }
  let l := l.info ("Logger initialized: " ++ l.name)
  let l :=
    match file? with
    | some path => l.info ("Log file: " ++ path)
    | none => l
  l.info ("Console level: " ++ levelName s.consoleLevel)

/-- Makes a log file in a directory, at a time that names it, and tells its
path. -/
def makeFile (l : Logger) (disk : Disk) (directory stamp : String) :
    Except DiskError (String × Disk) := do
  let disk ← disk.makeDirectories (Disk.tidy directory)
  let path := filePath directory l.name stamp
  let disk ← disk.write (disk.absolute path) []
  return (path, disk)

def setUp (l : Logger) (disk : Disk) (s : Settings) (stamp : String) :
    Except DiskError (Logger × Disk) :=
  if !l.outputs.isEmpty then .ok (l, disk)
  else
    match s.directory? with
    | none => .ok (l.begin s none, disk)
    | some directory => do
      let (path, disk) ← l.makeFile disk directory stamp
      return (l.begin s (some path), disk)

end Logger

end Chip8.Journal
