import Chip8.Keypad.Cached
import Chip8.Proofs.Wait

/-!
# The cache of a keypad

A keypad without its cache is `CachedKeypad.plain`. Each use of a keypad comes
to the same with the cache and without it (`CachedKeypad.plain_poll`,
`CachedKeypad.plain_wait`), and so do any uses of it one after the other
(`CachedKeypad.plain_usedBy`): a poll that finds no event shows what the table
still holds.
-/

namespace Chip8

namespace Snapshot

theorem heldCount_eq_count (s : Snapshot) :
    s.heldCount = s.held.toList.count true := by
  have hlist : s.held.toList = (List.finRange 16).map s.isHeld := by
    apply List.ext_getElem
    · simp
    · intro i _ _
      simp [isHeld]
  rw [hlist, heldCount, heldKeys, List.count, List.countP_map,
    List.countP_eq_length_filter]
  congr 1
  apply List.filter_congr
  simp

theorem view_count_eq_zero_iff (s : Snapshot) :
    s.view.count = 0 ↔ s.chosen? = none := by
  rw [chosen?_eq_none_iff, ← heldKeys_eq_nil_iff, ← List.length_eq_zero_iff,
    ← heldCount, heldCount_eq_count]
  rfl

end Snapshot

inductive KeypadUse where
  | press (key : Int)
  | release (key : Int)
  | poll
  | wait (batches : List (List KeyEvent))
  | reset

def Keypad.usedBy (k : Keypad) : KeypadUse → Keypad
  | .press key => k.press key
  | .release key => k.release key
  | .poll => k.poll
  | .wait batches => (k.wait batches).keypad
  | .reset => powerOn

namespace CachedKeypad

def usedBy (k : CachedKeypad) : KeypadUse → CachedKeypad
  | .press key => k.enqueue [⟨Key.ofInt key, true⟩]
  | .release key => k.enqueue [⟨Key.ofInt key, false⟩]
  | .poll => k.poll
  | .wait batches => (k.wait batches).2.1
  | .reset => powerOn

def plain (k : CachedKeypad) : Keypad :=
  ⟨k.queue, k.shown.toSnapshot⟩

theorem plain_snapshot (k : CachedKeypad) : k.plain.snapshot = k.table :=
  congrArg KeyView.toSnapshot k.shown_eq

theorem drain_eq (table : Snapshot) (changed : Bool) (events : List KeyEvent) :
    drain table changed events =
      (events.foldl Snapshot.apply table, changed || !events.isEmpty) := by
  induction events generalizing table changed with
  | nil => simp [drain]
  | cons e rest ih => simp [drain, ih]

theorem plain_poll (k : CachedKeypad) : k.poll.plain = k.plain.poll := by
  rw [poll, drain_eq, Keypad.poll, plain_snapshot]
  cases hqueue : k.plain.queue with
  | nil =>
      -- nothing is made anew, but the table is as it was
      have hempty : k.queue = [] := hqueue
      simp only [hempty]
      exact congrArg (Keypad.mk []) k.plain_snapshot
  | cons e rest =>
      have hsome : k.queue = e :: rest := hqueue
      simp only [hsome]
      rfl

theorem shown_count (k : CachedKeypad) :
    k.shown.count = k.shown.toSnapshot.heldCount := by
  rw [k.shown.count_eq, Snapshot.heldCount_eq_count]

theorem shown_count_eq_zero_iff (k : CachedKeypad) :
    k.shown.count = 0 ↔ k.plain.snapshot.chosen? = none := by
  rw [k.shown_eq, k.table.view_count_eq_zero_iff, plain_snapshot]

theorem taken?_eq (v : KeyView) : taken? v = v.chosen? := by
  rw [taken?, Snapshot.chosen?, Snapshot.heldKeys, List.head?_filter]

theorem plain_wait (k : CachedKeypad) (batches : List (List KeyEvent)) :
    (k.wait batches).1 = (k.plain.wait batches).key? ∧
      (k.wait batches).2.1.plain = (k.plain.wait batches).keypad ∧
      (k.wait batches).2.2 = (k.plain.wait batches).arrivals := by
  induction batches generalizing k with
  | nil =>
      have hpoll := k.plain_poll
      refine ⟨?_, hpoll, rfl⟩
      rw [wait, Keypad.wait, ← hpoll, taken?_eq]
      split
      next hnone => exact (k.poll.shown_count_eq_zero_iff.mp hnone).symm
      next => rfl
  | cons batch rest ih =>
      have hpoll := k.plain_poll
      rw [wait, Keypad.wait, ← hpoll]
      cases hchosen : k.poll.plain.snapshot.chosen? with
      | none =>
          rw [if_pos (k.poll.shown_count_eq_zero_iff.mpr hchosen)]
          exact ih (k.poll.enqueue batch)
      | some key =>
          have hcount : ¬ k.poll.shown.count = 0 := by
            rw [shown_count_eq_zero_iff, hchosen]
            exact Option.some_ne_none key
          rw [if_neg hcount]
          exact ⟨(taken?_eq _).trans hchosen, rfl, rfl⟩

/-- What one use makes of a keypad it makes of it without its cache. -/
theorem plain_usedBy (k : CachedKeypad) (u : KeypadUse) :
    (k.usedBy u).plain = k.plain.usedBy u := by
  cases u with
  | press key => rfl
  | release key => rfl
  | poll => exact k.plain_poll
  | wait batches => exact (k.plain_wait batches).2.1
  | reset => rfl

/-- However a keypad is used, it shows the same with its cache and without it,
and the number that it keeps is that of the held keys. -/
theorem plain_foldl_usedBy (uses : List KeypadUse) :
    (uses.foldl usedBy powerOn).plain =
      uses.foldl Keypad.usedBy Keypad.powerOn ∧
      (uses.foldl usedBy powerOn).shown.count =
        (uses.foldl Keypad.usedBy Keypad.powerOn).snapshot.heldCount := by
  have hplain : (uses.foldl usedBy powerOn).plain =
      uses.foldl Keypad.usedBy Keypad.powerOn :=
    (List.foldl_hom plain fun k u => (k.plain_usedBy u).symm).symm
  refine ⟨hplain, ?_⟩
  rw [shown_count, ← hplain]
  rfl

end CachedKeypad

end Chip8
