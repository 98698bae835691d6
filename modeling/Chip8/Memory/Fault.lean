import Chip8.Text.Numeral

/-!
# Faults

An access outside the address space does not stop the machine. It is counted,
and the latest of them are kept: a `FaultLog` knows how many there were and
shows the last `FaultLog.capacity` of them. The addresses are integers, since
an access can lie any distance outside on either side.
-/

namespace Chip8

inductive AccessKind where
  | read
  | write
  deriving DecidableEq, Repr

def AccessKind.name : AccessKind → String
  | .read => "read"
  | .write => "write"

def AccessKind.label : AccessKind → String
  | .read => "READ"
  | .write => "WRITE"

structure Fault where
  kind : AccessKind
  address : Int
  deriving DecidableEq, Repr

def Fault.message (f : Fault) : String :=
  "Memory " ++ f.kind.label ++ " access out of range: $" ++
    Text.signedHex 4 f.address

/-- The faults so far: their number, and the latest of them, newest first. -/
structure FaultLog where
  count : Nat := 0
  latest : List Fault := []
  deriving DecidableEq, Repr

namespace FaultLog

def capacity : Nat := 256

/-- One more fault; the oldest one kept makes room for it. -/
def record (l : FaultLog) (f : Fault) : FaultLog :=
  ⟨l.count + 1, (f :: l.latest).take capacity⟩

/-- The faults kept, oldest first. -/
def kept (l : FaultLog) : List Fault :=
  l.latest.reverse

end FaultLog

end Chip8
