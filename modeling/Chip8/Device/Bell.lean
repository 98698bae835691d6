import Chip8.Device

/-!
# Bell

A bell that is rung over and over while the tone is on. Each time the tone goes
on, a ringer of its own is set to work; it rings, waits for a while, and leaves
if it was asked to stop in the meantime, else it rings again. A ringer that was
asked to stop may still be at work beside the next one, but only the latest one
can be at work without having been asked to stop.

The steps of ringers and the requests to the bell may come in any order:
`Bell.Action` lists them and `Bell.act` is the effect of each.
-/

namespace Chip8

inductive RingerPhase where
  | ringing
  | waiting
  | gone
  deriving DecidableEq, Repr

structure Ringer where
  phase : RingerPhase := .ringing
  /-- Whether it was asked to stop. -/
  asked : Bool := false
  rings : Nat := 0
  deriving DecidableEq, Repr

namespace Ringer

def ask (r : Ringer) : Ringer :=
  { r with asked := true }

def step (r : Ringer) : Ringer :=
  match r.phase with
  | .ringing => { r with phase := .waiting, rings := r.rings + 1 }
  | .waiting => { r with phase := if r.asked then .gone else .ringing }
  | .gone => r

/-- The rings and waits of a ringer whose waits are answered by the given list,
each answer telling whether it was asked to stop: how often it rang. -/
def ringsFor : List Bool → Nat
  | [] => 0
  | asked :: rest => if asked then 1 else ringsFor rest + 1

end Ringer

/-- A bell with the ringers it ever set to work, oldest first. -/
structure Bell where
  ringers : List Ringer := []
  current? : Option Nat := none
  deriving DecidableEq, Repr

namespace Bell

def playing (b : Bell) : Bool :=
  b.current?.isSome

/-- Switches the tone on; nothing happens if it is on already. -/
def start (b : Bell) : Bell :=
  match b.current? with
  | some _ => b
  | none => ⟨b.ringers ++ [{}], some b.ringers.length⟩

def stop (b : Bell) : Bell :=
  match b.current? with
  | some i => ⟨b.ringers.modify i Ringer.ask, none⟩
  | none => b

@[simp] theorem playing_start (b : Bell) : b.start.playing = true := by
  cases h : b.current? <;> simp [start, playing, h]

@[simp] theorem playing_stop (b : Bell) : b.stop.playing = false := by
  cases h : b.current? <;> simp [stop, playing, h]

def close (b : Bell) : Bell :=
  b.stop

def stepRinger (b : Bell) (i : Nat) : Bell :=
  { b with ringers := b.ringers.modify i Ringer.step }

inductive Action where
  | start
  | stop
  | close
  | step (ringer : Nat)
  deriving DecidableEq, Repr

def act (b : Bell) : Action → Bell
  | .start => b.start
  | .stop => b.stop
  | .close => b.close
  | .step i => b.stepRinger i

def rings (b : Bell) : Nat :=
  b.ringers.foldl (fun n r => n + r.rings) 0

def ringing (b : Bell) : Bool :=
  b.ringers.any (·.phase ≠ .gone)

def stepAll (b : Bell) : Bell :=
  { b with ringers := b.ringers.map Ringer.step }

end Bell

instance : Tone Bell where
  start := Bell.start
  stop := Bell.stop
  playing := Bell.playing

end Chip8
