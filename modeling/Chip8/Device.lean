import Chip8.Screen.Frame

/-!
# Devices

What the machine needs from the outside: a `Surface` that frames are handed
to, and a `Tone` that is switched on and off. The machine never looks back at
them: it sends a `Signal` to its `Devices`, which are a surface and a tone side
by side, or anything else that takes signals, such as a list that keeps them.

The recorders `FrameRecord` and `ToneRecord` keep what they were given and show
nothing.
-/

namespace Chip8

class Surface (σ : Type) where
  present : Frame → σ → σ

class Tone (τ : Type) where
  start : τ → τ
  stop : τ → τ
  playing : τ → Bool

inductive Signal where
  | present (f : Frame)
  | startTone
  | stopTone
  deriving DecidableEq

class Devices (δ : Type) where
  receive : Signal → δ → δ

instance {σ τ : Type} [Surface σ] [Tone τ] : Devices (σ × τ) where
  receive
    | .present f, (surface, tone) => (Surface.present f surface, tone)
    | .startTone, (surface, tone) => (surface, Tone.start tone)
    | .stopTone, (surface, tone) => (surface, Tone.stop tone)

/-- A list keeps the signals, newest first. -/
instance : Devices (List Signal) where
  receive signal signals := signal :: signals

structure FrameRecord where
  last : Option Frame := none
  presents : Nat := 0
  deriving DecidableEq

instance : Surface FrameRecord where
  present f r := ⟨some f, r.presents + 1⟩

/-- A tone that counts how often it went on and off. A request that changes
nothing is not counted. -/
structure ToneRecord where
  playing : Bool := false
  starts : Nat := 0
  stops : Nat := 0
  deriving DecidableEq, Repr

namespace ToneRecord

def start (r : ToneRecord) : ToneRecord :=
  if r.playing then r else { r with playing := true, starts := r.starts + 1 }

def stop (r : ToneRecord) : ToneRecord :=
  if r.playing then { r with playing := false, stops := r.stops + 1 } else r

def close (r : ToneRecord) : ToneRecord :=
  r.stop

end ToneRecord

instance : Tone ToneRecord where
  start := ToneRecord.start
  stop := ToneRecord.stop
  playing := ToneRecord.playing

end Chip8
