import Chip8.CommandLine.Perform

/-!
# The tool

The tool takes what the command line asks for from the outside, lets
`CommandLine.perform` do its work, and writes down the reply. Files are looked
up name by name along the paths of the command; keys are read to the end of the
input before a run starts.
-/

namespace Chip8.Main

inductive Entry where
  | file (bytes : List UInt8)
  | directory
  | nothing

def look (path : String) : IO Entry := do
  try
    return .file (← IO.FS.readBinFile path).toList
  catch
    | .inappropriateType .. => return .directory
    | _ => return .nothing

/-- Follows a path as far as there are directories. -/
def explore (disk : Disk) : List String → IO Disk
  | [] => return disk
  | path :: rest => do
    match ← look path with
    | .file bytes => return disk.mount path bytes
    | .directory => explore (disk.mountDirectory path) rest
    | .nothing => return disk

partial def readToEnd (input : IO.FS.Stream) (got : ByteArray) :
    IO ByteArray := do
  let more ← input.read 4096
  if more.isEmpty then return got
  readToEnd input (got ++ more)

def patience : Nat := 1000000000000

def survey (command : CommandLine.Command) : IO CommandLine.World := do
  let disk ←
    command.paths.foldlM (fun d path => explore d (Disk.stages path)) {}
  let typed ←
    if command.listens then readToEnd (← IO.getStdin) .empty else pure .empty
  let entropy ← IO.rand 0 0xFFFFFFFFFFFF
  return { disk, typed := typed.toList, entropy, patience }

def store (command : CommandLine.Command) (reply : CommandLine.Reply) :
    IO Unit := do
  if reply.exit?.isSome then return
  if let some path := command.target? then
    if let .ok bytes := reply.disk.read path then
      IO.FS.writeBinFile path bytes.toByteArray

def deliver (reply : CommandLine.Reply) : IO UInt32 := do
  IO.print reply.out
  IO.eprint reply.err
  return UInt32.ofNat (reply.exit?.getD 0)

def run (args : List String) : IO UInt32 := do
  match CommandLine.Command.ofArgs args with
  | .error early => deliver (early.reply { patience })
  | .ok command =>
    let reply := command.perform (← survey command)
    try
      store command reply
      deliver reply
    catch e =>
      IO.eprintln ("Error: " ++ toString e)
      return 1

end Chip8.Main

def main (args : List String) : IO UInt32 :=
  Chip8.Main.run args
