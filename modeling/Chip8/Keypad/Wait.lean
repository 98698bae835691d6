import Chip8.Keypad

/-!
# Waiting for a key

A wait polls until some key is held. What arrives meanwhile is given as a list
of batches, one for each time the wait yields; a wait that finds no key held
after the last batch is stalled. A key that goes down and up within one batch
is missed.
-/

namespace Chip8.Keypad

structure Wait where
  /-- The key taken; `none` if the wait stalled. -/
  key? : Option Key
  keypad : Keypad
  /-- The batches that were not needed. -/
  arrivals : List (List KeyEvent)
  /-- The events that were applied, in order. -/
  applied : List KeyEvent
  deriving DecidableEq

def wait (k : Keypad) : List (List KeyEvent) → Wait
  | [] => ⟨k.poll.snapshot.chosen?, k.poll, [], k.queue⟩
  | batch :: rest =>
    match k.poll.snapshot.chosen? with
    | some key => ⟨some key, k.poll, batch :: rest, k.queue⟩
    | none =>
      let w := wait (k.poll.enqueue batch) rest
      { w with applied := k.queue ++ w.applied }

end Chip8.Keypad
