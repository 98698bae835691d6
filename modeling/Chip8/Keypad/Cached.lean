import Chip8.Keypad.Wait

/-!
# The keypad with its cache

What is shown of the keys is kept from one poll to the next, with the number of
the held keys, and is made anew only by a poll that finds an event. The table
of the keys beside it is changed event by event. Between two polls the table
and what is shown agree, which a `CachedKeypad` carries with it.
-/

namespace Chip8

structure KeyView extends Snapshot where
  count : Nat
  count_eq : count = held.toList.count true

def Snapshot.view (s : Snapshot) : KeyView :=
  { s with count := s.held.toList.count true, count_eq := rfl }

structure CachedKeypad where
  queue : List KeyEvent := []
  table : Snapshot := Snapshot.powerOn
  shown : KeyView := table.view
  shown_eq : shown = table.view

namespace CachedKeypad

def powerOn : CachedKeypad where
  shown_eq := rfl

def enqueue (k : CachedKeypad) (events : List KeyEvent) : CachedKeypad :=
  { k with queue := k.queue ++ events }

/-- Applies the events of a queue to a table, and tells whether there were
any. -/
def drain (table : Snapshot) (changed : Bool) : List KeyEvent → Snapshot × Bool
  | [] => (table, changed)
  | e :: rest => drain (table.apply e) true rest

def poll (k : CachedKeypad) : CachedKeypad :=
  let (table, changed) := drain k.table false k.queue
  if changed then { table, shown_eq := rfl } else { k with queue := [] }

def taken? (v : KeyView) : Option Key :=
  if v.isHeld v.last then some v.last else (List.finRange 16).find? v.isHeld

/-- Waits for a key while the given batches arrive; the key that was taken, and
the batches that were not needed. -/
def wait (k : CachedKeypad) :
    List (List KeyEvent) → Option Key × CachedKeypad × List (List KeyEvent)
  | [] =>
    let k := k.poll
    (if k.shown.count = 0 then none else taken? k.shown, k, [])
  | batch :: rest =>
    let k := k.poll
    if k.shown.count = 0 then wait (k.enqueue batch) rest
    else (taken? k.shown, k, batch :: rest)

end CachedKeypad

end Chip8
