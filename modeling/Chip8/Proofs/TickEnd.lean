import Chip8.Pacing.Timekeeper

/-!
# Waits that end

A wait sleeps for all but the margin of what remains and then yields for as
long as its deadline is ahead. The yielding is a loop without a bound, and on
some clocks without an end. `Timekeeper.Spins` is a loop that ends, with the
number of its turns; what `Timekeeper.spin` gives is known there
(`Timekeeper.Spins.spin_eq`) and nowhere else.

`Timekeeper.Waits` is a wait that ends: it comes too late, or its sleep is not
refused and its loop ends. What becomes of the timekeeper is
`Timekeeper.Waits.waitUntil_eq`.
-/

namespace Chip8

def Clock.now {κ : Type} [Clock κ] (c : κ) : Int :=
  (read c).1

namespace Timekeeper

variable {κ : Type} [Clock κ]

/-- Yielding for as long as a deadline is ahead takes a clock, in so many
turns, to another. -/
inductive Spins (deadline : Int) : κ → Nat → κ → Prop
  | reached {c} : deadline ≤ Clock.now c → Spins deadline c 0 (Clock.read c).2
  | turn {c n d} : Clock.now c < deadline →
      Spins deadline (Clock.yield (Clock.read c).2) n d →
      Spins deadline c (n + 1) d

theorem spin_eq_ite (deadline : Int) (t : Timekeeper κ) :
    t.spin deadline =
      if Clock.now t.clock < deadline then
        spin deadline
          { t with clock := Clock.yield (Clock.read t.clock).2 }
      else { t with clock := (Clock.read t.clock).2 } := by
  rw [spin]
  rfl

/-- Yielding changes nothing but the clock. -/
theorem Spins.spin_eq {deadline : Int} {c d : κ} {n : Nat}
    (h : Spins deadline c n d) (t : Timekeeper κ) :
    spin deadline { t with clock := c } = { t with clock := d } := by
  induction h with
  | reached hlate => rw [spin_eq_ite, if_neg (Int.not_lt.mpr hlate)]
  | turn hearly _ ih => rw [spin_eq_ite, if_pos hearly, ih]

/-- The sleep before the yielding, for all but the margin of what remains. -/
def rest (margin remaining : Int) (c : κ) : Option κ :=
  if margin < remaining then Clock.sleep (remaining - margin).toNat c
  else some c

theorem rest_cases {margin remaining : Int} {c rested : κ}
    (hrest : rest margin remaining c = some rested) :
    margin < remaining ∧
        Clock.sleep (remaining - margin).toNat c = some rested ∨
      ¬ margin < remaining ∧ rested = c := by
  unfold rest at hrest
  split at hrest
  next hlong => exact .inl ⟨hlong, hrest⟩
  next hshort => exact .inr ⟨hshort, (Option.some.inj hrest).symm⟩

theorem pause_eq (t : Timekeeper κ) (deadline remaining : Int) :
    t.pause deadline remaining =
      (rest t.margin remaining t.clock).map fun rested =>
        spin deadline { t with clock := rested } := by
  simp only [pause, rest, Int.sub_pos]

theorem waitUntil_eq (t : Timekeeper κ) (deadline : Int) :
    t.waitUntil deadline =
      if deadline ≤ Clock.now t.clock then
        .over { t with
          clock := (Clock.read t.clock).2
          overruns := t.overruns + 1 }
      else
        match rest t.margin (deadline - Clock.now t.clock)
            (Clock.read t.clock).2 with
        | some rested => .over (spin deadline { t with clock := rested })
        | none => .refused { t with clock := (Clock.read t.clock).2 } := by
  have htime : t.now =
    (Clock.now t.clock, { t with clock := (Clock.read t.clock).2 }) := rfl
  have hlate : deadline - Clock.now t.clock ≤ 0 ↔
      deadline ≤ Clock.now t.clock := by
    omega
  simp only [waitUntil, htime, hlate, pause_eq]
  cases rest t.margin (deadline - Clock.now t.clock) (Clock.read t.clock).2 <;>
    rfl

/-- A wait for a deadline ends, and this becomes of the timekeeper. -/
inductive Waits (deadline : Int) (t : Timekeeper κ) : Timekeeper κ → Prop
  | late : deadline ≤ Clock.now t.clock →
      Waits deadline t
        { t with clock := (Clock.read t.clock).2, overruns := t.overruns + 1 }
  | early {rested c n} : Clock.now t.clock < deadline →
      rest t.margin (deadline - Clock.now t.clock) (Clock.read t.clock).2 =
        some rested →
      Spins deadline rested n c → Waits deadline t { t with clock := c }

theorem Waits.waitUntil_eq {deadline : Int} {t t' : Timekeeper κ}
    (h : Waits deadline t t') : t.waitUntil deadline = .over t' := by
  rw [Timekeeper.waitUntil_eq]
  cases h with
  | late hlate => rw [if_pos hlate]
  | early hearly hrest hspins =>
      rw [if_neg (Int.not_le.mpr hearly), hrest]
      dsimp only
      rw [hspins.spin_eq]

end Timekeeper

end Chip8
