/-!
# Keypad

Sixteen keys. Whoever watches the real keys enqueues what happened to them; the
machine applies the whole queue at once when it polls, oldest event first. What
the machine sees is the `Snapshot` after the last poll: which keys are held and
which was pressed last. Enqueueing changes nothing that can be seen, and how
the events were spread over polls leaves no trace (`poll_enqueue_poll`).
-/

namespace Chip8

def keyCount : Nat := 16

abbrev Key := Fin 16

def Key.ofInt (z : Int) : Key :=
  ⟨(z % 16).toNat, by omega⟩

structure KeyEvent where
  key : Key
  down : Bool
  deriving DecidableEq, Repr

structure Snapshot where
  held : Vector Bool 16 := Vector.replicate 16 false
  /-- The key that went down last. -/
  last : Key := 0
  deriving DecidableEq, Repr

namespace Snapshot

def powerOn : Snapshot := {}

def isHeld (s : Snapshot) (k : Key) : Bool :=
  s.held[k]

def heldKeys (s : Snapshot) : List Key :=
  (List.finRange 16).filter s.isHeld

def heldCount (s : Snapshot) : Nat :=
  s.heldKeys.length

def apply (s : Snapshot) (e : KeyEvent) : Snapshot :=
  ⟨s.held.set e.key e.down, if e.down then e.key else s.last⟩

/-- The key that a wait takes: the last one pressed if it is held, else the
lowest held one. -/
def chosen? (s : Snapshot) : Option Key :=
  if s.isHeld s.last then some s.last else s.heldKeys.head?

theorem isHeld_apply (s : Snapshot) (e : KeyEvent) (k : Key) :
    (s.apply e).isHeld k = if e.key = k then e.down else s.isHeld k := by
  simp [isHeld, apply, Vector.getElem_set, Fin.ext_iff]

end Snapshot

/-- The keys as the machine sees them, and the events it has not seen yet,
oldest first. -/
structure Keypad where
  queue : List KeyEvent := []
  snapshot : Snapshot := Snapshot.powerOn
  deriving DecidableEq

namespace Keypad

def powerOn : Keypad := {}

def enqueue (k : Keypad) (events : List KeyEvent) : Keypad :=
  { k with queue := k.queue ++ events }

def press (k : Keypad) (key : Int) : Keypad :=
  k.enqueue [⟨Key.ofInt key, true⟩]

def release (k : Keypad) (key : Int) : Keypad :=
  k.enqueue [⟨Key.ofInt key, false⟩]

def poll (k : Keypad) : Keypad :=
  ⟨[], k.queue.foldl Snapshot.apply k.snapshot⟩

@[simp] theorem snapshot_enqueue (k : Keypad) (events : List KeyEvent) :
    (k.enqueue events).snapshot = k.snapshot := rfl

@[simp] theorem queue_poll (k : Keypad) : k.poll.queue = [] := rfl

/-- A poll between two batches of events makes no difference. -/
theorem poll_enqueue_poll (k : Keypad) (events : List KeyEvent) :
    (k.poll.enqueue events).poll = (k.enqueue events).poll := by
  simp [poll, enqueue, List.foldl_append]

end Keypad

end Chip8
