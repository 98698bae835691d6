import Chip8.Proofs.Pacing

/-!
# Waiting for a deadline

A wait sleeps for all but the margin of what remains, and then yields for as
long as the deadline is ahead. On a clock that moves on whenever it is slept on
(`Clock.Advances`) that loop ends (`Timekeeper.exists_spins`), and with it the
wait.

`Watched` is a clock that keeps a record of the sleeps it is asked for. A wait
is the same on it, and leaves there what it asked for: at most one sleep that
is not a yield, and that one first. If the sleep leaves the margin at most, no
time is lost but in the last turn of the loop.
-/

namespace Chip8

/-- Reading the clock takes no time; to sleep on it takes some, and is never
refused. -/
structure Clock.Advances {κ : Type} [Clock κ] (c : κ) : Prop where
  reads {d : κ} : Later c d → now (read d).2 = now d
  sleeps {d : κ} (n : Nat) :
    Later c d → ∃ e, sleep n d = some e ∧ now d + 1 ≤ now e
  yields {d : κ} : Later c d → now d + 1 ≤ now (yield d)

namespace Clock.Advances

variable {κ : Type} [Clock κ] {c d : κ}

theorem later (h : Advances c) (hd : Later c d) : Advances d where
  reads he := h.reads (hd.trans he)
  sleeps n he := h.sleeps n (hd.trans he)
  yields he := h.yields (hd.trans he)

theorem now_read (h : Advances c) : now (Clock.read c).2 = now c :=
  h.reads .refl

theorem read (h : Advances c) : Advances (Clock.read c).2 :=
  h.later (.read .refl)

theorem now_lt_yield (h : Advances c) :
    now c + 1 ≤ now (Clock.yield (Clock.read c).2) := by
  rw [← h.now_read]
  exact h.yields (.read .refl)

theorem steady (h : Advances c) : Steady c where
  reads hd := Int.le_of_eq (h.reads hd).symm
  yields hd := (h.later hd).now_lt_yield

end Clock.Advances

/-- A clock with a record of the sleeps it was asked for, in nanoseconds and
oldest first; to yield is to sleep for none. -/
structure Watched (κ : Type) where
  clock : κ
  requests : List Nat

instance {κ : Type} [Clock κ] : Clock (Watched κ) where
  read w := ((Clock.read w.clock).1, ⟨(Clock.read w.clock).2, w.requests⟩)
  sleep n w := (Clock.sleep n w.clock).map (⟨·, w.requests ++ [n]⟩)
  yield w := ⟨Clock.yield w.clock, w.requests ++ [0]⟩

/-- A clock that wakes late: a sleep takes so much longer than it was asked
for, and a yield takes `grain`, but neither less than a nanosecond. -/
structure LateWaker (late grain : Nat) where
  now : Int

namespace LateWaker

variable {late grain : Nat}

instance : Clock (LateWaker late grain) where
  read c := (c.now, c)
  sleep n c := some ⟨c.now + (max 1 (n + late) : Nat)⟩
  yield c := ⟨c.now + (max 1 grain : Nat)⟩

theorem advances (c : LateWaker late grain) : Clock.Advances c where
  reads _ := rfl
  sleeps {d} n _ := by
    refine ⟨_, rfl, ?_⟩
    change d.now + 1 ≤ d.now + (max 1 (n + late) : Nat)
    omega
  yields {d} _ := by
    change d.now + 1 ≤ d.now + (max 1 grain : Nat)
    omega

end LateWaker

namespace Timekeeper

variable {κ : Type} [Clock κ]

namespace Spins

variable {deadline : Int} {c d : κ} {n : Nat}

/-- If each yield takes no longer than `grain`, the loop ends before the
deadline and `grain`. -/
theorem now_lt (hspins : Spins deadline c n d) (h : Clock.Advances c)
    {grain : Int} (hgrain : ∀ {e},
      Clock.Later c e → Clock.now (Clock.yield e) ≤ Clock.now e + grain)
    (hnow : Clock.now c < deadline + grain) :
    Clock.now d < deadline + grain := by
  induction hspins with
  | reached => rwa [h.now_read]
  | @turn c n d hearly _ ih =>
      have hlater : Clock.Later c (Clock.yield (Clock.read c).2) :=
        .yield (.read .refl)
      refine ih (h.later hlater) (fun he => hgrain (hlater.trans he)) ?_
      have hyield := hgrain (.read .refl)
      rw [h.now_read] at hyield
      omega

/-- The loop is the same on a clock that is watched, and asks for nothing but
yields. -/
theorem watched (hspins : Spins deadline c n d) (requests : List Nat) :
    Spins deadline (⟨c, requests⟩ : Watched κ) n
      ⟨d, requests ++ List.replicate n 0⟩ := by
  induction hspins generalizing requests with
  | reached hlate =>
      rw [List.replicate_zero, List.append_nil]
      exact .reached hlate
  | turn hearly _ ih =>
      refine .turn hearly ?_
      rw [List.replicate_succ, List.append_cons]
      exact ih (requests ++ [0])

end Spins

theorem exists_rest {c : κ} (h : Clock.Advances c) (margin remaining : Int) :
    ∃ rested, rest margin remaining c = some rested := by
  unfold rest
  split
  · obtain ⟨rested, hsleep, -⟩ := h.sleeps (remaining - margin).toNat .refl
    exact ⟨rested, hsleep⟩
  · exact ⟨c, rfl⟩

def slept (margin remaining : Int) : List Nat :=
  if margin < remaining then [(remaining - margin).toNat] else []

theorem rest_watched {margin remaining : Int} {c d : κ}
    (hrest : rest margin remaining c = some d) :
    rest margin remaining (⟨c, []⟩ : Watched κ) =
      some ⟨d, slept margin remaining⟩ := by
  rcases rest_cases hrest with ⟨hlong, hsleep⟩ | ⟨hshort, rfl⟩
  · rw [rest, slept, if_pos hlong, if_pos hlong]
    exact congrArg (Option.map _) hsleep
  · rw [rest, slept, if_neg hshort, if_neg hshort]

def watched (t : Timekeeper κ) : Timekeeper (Watched κ) :=
  { t with clock := ⟨t.clock, []⟩ }

/-- How long a sleep takes longer than asked for makes no difference, as long
as it is within the margin. -/
theorem now_rested_le {t : Timekeeper κ} (h : Clock.Advances t.clock)
    {deadline : Int} (hearly : Clock.now t.clock < deadline) {rested : κ}
    (hrest : rest t.margin (deadline - Clock.now t.clock)
    (Clock.read t.clock).2 = some rested)
    (hover : t.margin < deadline - Clock.now t.clock → ∀ e,
      Clock.sleep (deadline - Clock.now t.clock - t.margin).toNat
      (Clock.read t.clock).2 = some e → Clock.now e ≤ Clock.now t.clock +
      (deadline - Clock.now t.clock - t.margin) + t.margin) :
    Clock.now rested ≤ deadline := by
  rcases rest_cases hrest with ⟨hlong, hsleep⟩ | ⟨-, rfl⟩
  · have hwoken := hover hlong rested hsleep
    omega
  · rw [h.now_read]
    exact Int.le_of_lt hearly

/-- On a clock that moves on when it is slept on, a wait is over, and not
before its deadline. It is an overrun if the deadline is not ahead, and asks
for no sleep then. Otherwise the first thing it asks for is a sleep for all but
the margin of what remains, if more than the margin does, and all else are
yields, as many as the loop without a bound takes. If that sleep takes at most
the margin longer than asked for and no yield takes longer than `grain`, a wait
that begins before the deadline and `grain` also ends before then. -/
theorem waitUntil_exact {t : Timekeeper κ} (h : Clock.Advances t.clock)
    (deadline : Int) :
    let remaining := deadline - Clock.now t.clock
    let coarse := remaining - t.margin
    ∃ t' requests, t.waitUntil deadline = .over t' ∧
      t.watched.waitUntil deadline =
        .over { t' with clock := ⟨t'.clock, requests⟩ } ∧
      deadline ≤ Clock.now t'.clock ∧
      t'.overruns = t.overruns + (if remaining ≤ 0 then 1 else 0) ∧
      (remaining ≤ 0 → requests = [] ∧
        Clock.now t'.clock = Clock.now t.clock) ∧
      (0 < remaining → ∃ rested turns,
        (if t.margin < remaining then
          Clock.sleep coarse.toNat (Clock.read t.clock).2 = some rested
        else rested = (Clock.read t.clock).2) ∧
        Spins deadline rested turns t'.clock ∧
        requests = (if t.margin < remaining then [coarse.toNat] else []) ++
          List.replicate turns 0) ∧
      ∀ grain, 1 ≤ grain → Clock.now t.clock < deadline + grain →
        (t.margin < remaining → ∀ rested,
          Clock.sleep coarse.toNat (Clock.read t.clock).2 = some rested →
            Clock.now rested ≤ Clock.now t.clock + coarse + t.margin) →
        (∀ c, Clock.Later t.clock c →
          Clock.now (Clock.yield c) ≤ Clock.now c + grain) →
          Clock.now t'.clock < deadline + grain := by
  intro remaining coarse
  by_cases hlate : deadline ≤ Clock.now t.clock
  · have hover : remaining ≤ 0 := Int.sub_nonpos_of_le hlate
    have hwatched : Waits deadline t.watched _ := .late hlate
    refine ⟨_, [], (Waits.late hlate).waitUntil_eq, hwatched.waitUntil_eq, ?_⟩
    rw [h.now_read, if_pos hover]
    refine ⟨hlate, rfl, fun _ => ⟨rfl, rfl⟩, fun hearly => ?_,
      fun grain _ hnow _ _ => hnow⟩
    omega
  · have hearly : Clock.now t.clock < deadline := Int.not_le.mp hlate
    have hahead : 0 < remaining := Int.sub_pos_of_lt hearly
    obtain ⟨rested, hrest⟩ := exists_rest h.read t.margin remaining
    have hrested : Clock.Later t.clock rested :=
      (Clock.Later.read .refl).trans (later_of_rest hrest)
    have hsteady := (h.later hrested).steady
    obtain ⟨turns, c, hspins⟩ := exists_spins hsteady deadline
    have hwait : Waits deadline t _ := .early hearly hrest hspins
    have hwatched : Waits deadline t.watched _ :=
      .early hearly (rest_watched hrest) (hspins.watched _)
    refine ⟨_, _, hwait.waitUntil_eq, hwatched.waitUntil_eq,
      hspins.deadline_le hsteady, ?_, ?_, ?_, ?_⟩
    · rw [if_neg (Int.not_le.mpr hahead)]
      rfl
    · intro hover
      omega
    · intro _
      refine ⟨rested, turns, ?_, hspins, rfl⟩
      rcases rest_cases hrest with ⟨hlong, hsleep⟩ | ⟨hshort, hsame⟩
      · rwa [if_pos hlong]
      · rwa [if_neg hshort]
    · intro grain hgrain hnow hover hyield
      refine hspins.now_lt (h.later hrested)
        (fun he => hyield _ (hrested.trans he)) ?_
      have hwoken := now_rested_le h hearly hrest hover
      omega

/-- A sleep that is late by less than the margin, and a wait that begins at its
deadline. -/
theorem late_sleep_made_up_for :
    let t : Timekeeper (LateWaker 3 2) :=
      { period := 20
        margin := 4
        clock := ⟨100⟩
        period_pos := by decide }
    Clock.Advances t.clock ∧
      (∃ (t' : Timekeeper (LateWaker 3 2)) (requests : List Nat),
        t.watched.waitUntil 120 =
        .over { t' with clock := ⟨t'.clock, requests⟩ } ∧
        requests.head? = some 16 ∧ t'.overruns = 0 ∧ 120 ≤ Clock.now t'.clock ∧
        Clock.now t'.clock < 122) ∧
      ∃ t', t.waitUntil 100 = .over t' ∧ t'.overruns = 1 := by
  intro t
  have h : Clock.Advances t.clock := t.clock.advances
  refine ⟨h, ?_, ?_⟩
  · obtain ⟨t', requests, -, hwatched, hreached, hoverruns, -, hearly,
      haccurate⟩ := waitUntil_exact h 120
    obtain ⟨rested, turns, -, -, hrequests⟩ := hearly (by decide)
    refine ⟨t', requests, hwatched, ?_, hoverruns, hreached, ?_⟩
    · rw [hrequests]
      rfl
    · refine haccurate 2 (by decide) (by decide)
        (fun _ rested hsleep => ?_) fun c _ => ?_
      · cases hsleep
        decide
      · exact Int.le_refl _
  · obtain ⟨t', -, hwait, -, -, hoverruns, -⟩ := waitUntil_exact h 100
    exact ⟨t', hwait, hoverruns⟩

end Timekeeper

end Chip8
