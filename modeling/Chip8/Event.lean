import Chip8.Instruction.Text
import Chip8.Journal.Severity
import Chip8.Keypad
import Chip8.Memory.Fault
import Chip8.Numeric.Double

/-!
# Events

What the machine reports about itself while it runs, as values.
`Event.severity` and `Event.message` say how an event stands in a log.
-/

namespace Chip8

inductive Event where
  /-- A machine was set up with a clock rate and a number of ticks a frame. -/
  | powerOn (hz ticksPerFrame : Nat)
  | loaded (name : String) (base : Int) (size : Nat)
  | key (e : KeyEvent)
  | fault (f : Fault)
  | unknown (u : UnknownWord)
  | systemIgnored (nnn : Address) (place : Word)
  | waiting (x : Register)
  /-- As many ticks as make a second took so long. -/
  | speed (hz : Nat) (nanoseconds : Int)
  deriving DecidableEq, Repr

namespace Event

open Text

def severity : Event → Journal.Severity
  | powerOn _ _ | loaded _ _ _ => .info
  | key _ | systemIgnored _ _ | waiting _ | speed _ _ => .debug
  | fault _ | unknown _ => .warning

def milliseconds (nanoseconds : Int) : String :=
  (Numeric.Double.ofFloat (Numeric.floatOfInt nanoseconds / 1e6)).threePlaces

def message : Event → String
  | powerOn hz ticks =>
    "CHIP-8 system initialized (" ++ toString hz ++ " Hz, " ++
      toString ticks ++ " ticks/frame)"
  | loaded name base size =>
    "ROM " ++ name ++ " loaded at $" ++ signedHex 3 base ++ " (" ++
      toString size ++ " bytes)"
  | key e =>
    "Key " ++ String.ofList [hexDigit e.key.val] ++
      (if e.down then " down" else " up")
  | fault f => f.message
  | unknown u => u.message
  | systemIgnored nnn place =>
    "SYS $" ++ String.ofList (fixedHex 3 nnn.val) ++ " ignored at $" ++
      hex 3 place.toNat
  | waiting x => "Waiting for key into V" ++ String.ofList [hexDigit x.val]
  | speed hz nanoseconds =>
    "Time to emulate " ++ toString hz ++ " Hz: " ++ milliseconds nanoseconds ++
      " ms"

end Event

end Chip8
