import Chip8.Keypad.Wait

/-!
# How waits end

A wait polls once at once and once after each batch of events that arrives. The
poll after `n` batches sees what a single poll would see if the queued events
and the first `n` batches had been enqueued together (`Keypad.afterBatches`).
The wait ends with the first poll that sees a key held (`Keypad.wait_spec`), so
it is in vain exactly if no such poll does.
-/

namespace Chip8

namespace Snapshot

theorem heldKeys_eq_nil_iff (s : Snapshot) :
    s.heldKeys = [] ↔ ∀ key, s.isHeld key = false := by
  simp [heldKeys]

theorem chosen?_eq_none_iff (s : Snapshot) :
    s.chosen? = none ↔ ∀ key, s.isHeld key = false := by
  unfold chosen?
  by_cases hl : s.isHeld s.last = true
  · simp only [hl, if_true, reduceCtorEq, false_iff]
    intro h
    rw [h s.last] at hl
    cases hl
  · rw [if_neg hl, List.head?_eq_none_iff, heldKeys_eq_nil_iff]

end Snapshot

namespace Keypad

/-- What a poll sees once the first `n` of some batches of events have
arrived. -/
def afterBatches (k : Keypad) (batches : List (List KeyEvent)) (n : Nat) :
    Snapshot :=
  (k.enqueue (batches.take n).flatten).poll.snapshot

@[simp] theorem afterBatches_zero (k : Keypad)
    (batches : List (List KeyEvent)) :
    k.afterBatches batches 0 = k.poll.snapshot := by
  simp [afterBatches, enqueue]

theorem afterBatches_cons_succ (k : Keypad) (batch : List KeyEvent)
    (rest : List (List KeyEvent)) (n : Nat) :
    k.afterBatches (batch :: rest) (n + 1) =
      (k.enqueue batch).afterBatches rest n := by
  simp [afterBatches, enqueue]

theorem afterBatches_poll (k : Keypad) (batches : List (List KeyEvent))
    (n : Nat) :
    k.poll.afterBatches batches n = k.afterBatches batches n := by
  rw [afterBatches, afterBatches, poll_enqueue_poll]

theorem afterBatches_poll_enqueue (k : Keypad) (batch : List KeyEvent)
    (rest : List (List KeyEvent)) (n : Nat) :
    (k.poll.enqueue batch).afterBatches rest n =
      (k.enqueue batch).afterBatches rest n := by
  rw [← afterBatches_poll, poll_enqueue_poll, afterBatches_poll]

/-- A wait ends with the first of its polls that sees a key held, or else with
the last one. What it leaves is what that poll leaves. -/
theorem wait_spec (k : Keypad) (batches : List (List KeyEvent)) :
    ∃ n ≤ batches.length,
      k.wait batches =
        ⟨(k.afterBatches batches n).chosen?,
          (k.enqueue (batches.take n).flatten).poll,
          batches.drop n, k.queue ++ (batches.take n).flatten⟩ ∧
      (∀ j < n, (k.afterBatches batches j).chosen? = none) ∧
      ((k.afterBatches batches n).chosen? = none → n = batches.length) := by
  induction batches generalizing k with
  | nil =>
      exact ⟨0, Nat.le_refl 0, by simp [wait, enqueue], fun j hj =>
        absurd hj (Nat.not_lt_zero j), fun _ => rfl⟩
  | cons batch rest ih =>
      cases hc : k.poll.snapshot.chosen? with
      | some key =>
          refine ⟨0, Nat.zero_le _, by simp [wait, hc, enqueue],
            fun j hj => absurd hj (Nat.not_lt_zero j), ?_⟩
          rw [afterBatches_zero, hc]
          intro hnone
          cases hnone
      | none =>
          obtain ⟨n, hn, hwait, hbefore, hlast⟩ := ih (k.poll.enqueue batch)
          have hpolls (j : Nat) : (k.poll.enqueue batch).afterBatches rest j =
              k.afterBatches (batch :: rest) (j + 1) := by
            rw [afterBatches_poll_enqueue, afterBatches_cons_succ]
          simp only [hpolls] at hwait hbefore hlast
          refine ⟨n + 1, Nat.succ_le_succ hn, ?_, ?_, fun h =>
            congrArg (· + 1) (hlast h)⟩
          · simp only [wait, hc, hwait]
            simp [enqueue, poll, List.foldl_append]
          · intro j hj
            cases j with
            | zero => rw [afterBatches_zero, hc]
            | succ j => exact hbefore j (Nat.lt_of_succ_lt_succ hj)

theorem wait_key?_eq_none_iff (k : Keypad) (batches : List (List KeyEvent)) :
    (k.wait batches).key? = none ↔
      ∀ n ≤ batches.length, ∀ key,
        (k.afterBatches batches n).isHeld key = false := by
  obtain ⟨n, hn, hwait, hbefore, hlast⟩ := k.wait_spec batches
  simp only [← Snapshot.chosen?_eq_none_iff]
  rw [hwait]
  constructor
  · intro hnone j hj
    rcases Nat.lt_or_eq_of_le (hlast hnone ▸ hj) with hlt | rfl
    · exact hbefore j hlt
    · exact hnone
  · exact fun h => h n hn

end Keypad

end Chip8
