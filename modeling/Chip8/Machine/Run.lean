import Chip8.Machine
import Chip8.Pacing.Timekeeper

/-!
# Running

A run does ticks one after the other until it has done as many as it may, a
condition holds before a tick, or a tick is not completed. Each tick is timed,
and in a paced run held to its period. What the clock says goes into the speed
report and nowhere else, unless it is beyond all measure: a time that is too
large for a double can neither be slept nor be reported, and ends the run.
-/

namespace Chip8

inductive RunEnd where
  | exhausted
  | stopped
  | stalled
  /-- A tick was broken off at a value that does not fit into its register. -/
  | unfit
  /-- A tick is done, but a time is too large for a double. -/
  | overlong
  deriving DecidableEq, Repr

structure Run (ρ δ κ : Type) where
  machine : Machine ρ δ
  keeper : Timekeeper κ
  executed : Nat
  ending : RunEnd

inductive Lap (ρ δ κ : Type) where
  | passed (m : Machine ρ δ) (t : Timekeeper κ)
  /-- The run ends, with so many ticks done in this lap. -/
  | ended (m : Machine ρ δ) (t : Timekeeper κ) (ticks : Nat) (ending : RunEnd)

namespace Machine

variable {ρ δ κ : Type} [Clock κ]

/-- After a tick that started at `start`: holds it to its period and accounts
for its time. -/
def settle (paced : Bool) (start : Int) (m : Machine ρ δ) (t : Timekeeper κ) :
    Lap ρ δ κ :=
  match if paced then t.waitForTickEnd else .over t with
  | .refused t => .ended m t 1 .overlong
  | .over t =>
    let (time, t) := t.now
    let m := m.account (time - start)
    match m.reportSpeed? with
    | none => .ended m t 1 .overlong
    | some m => .passed m t

variable [RandomSource ρ] [Devices δ]

def lap (paced : Bool) (m : Machine ρ δ) (t : Timekeeper κ) : Lap ρ δ κ :=
  let (start, t) := t.startTick
  match m.step with
  | .stalled m => .ended m t 0 .stalled
  | .unfit m => .ended m t 0 .unfit
  | .done _ m => m.settle paced start t

/-- Continues a run in which `executed` ticks are done with at most so many
more. -/
def runFrom (paced : Bool) (stop : Machine ρ δ → Bool) (executed : Nat) :
    Nat → Machine ρ δ → Timekeeper κ → Run ρ δ κ
  | 0, m, t => ⟨m, t, executed, .exhausted⟩
  | limit + 1, m, t =>
    if stop m then ⟨m, t, executed, .stopped⟩
    else
      match m.lap paced t with
      | .passed m t => runFrom paced stop (executed + 1) limit m t
      | .ended m t ticks ending => ⟨m, t, executed + ticks, ending⟩

/-- Runs at most `limit` ticks; none if that is negative. -/
def run (m : Machine ρ δ) (t : Timekeeper κ) (paced : Bool)
    (stop : Machine ρ δ → Bool) (limit : Int) : Run ρ δ κ :=
  runFrom paced stop 0 limit.toNat m t

end Machine

end Chip8
