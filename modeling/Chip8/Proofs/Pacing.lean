import Chip8.Proofs.RunPace
import Mathlib.Data.List.Chain

/-!
# Ticks held to their period

`Timekeeper.started`, `arrived` and `finished` are the readings of a lap: when
its tick starts, when its work is done and the wait begins, and after the wait.
The work of a tick is not seen by the clock otherwise, so between two readings
any time may pass.

A `Clock.Steady` clock never goes back, and to yield between two readings takes
at least a nanosecond. On such a clock the loop that yields ends
(`Timekeeper.exists_spins`), and a wait ends at its deadline or later. Each
deadline is a period after the start of its own tick; `Timekeeper.OnTime` is
what one lap adds, and `Timekeeper.Paced` what holds over a whole run. A lap
that is late shifts all later ones and shortens none of them.
-/

namespace Chip8

namespace Clock

variable {κ : Type} [Clock κ]

inductive Later (c : κ) : κ → Prop
  | refl : Later c c
  | read {d : κ} : Later c d → Later c (Clock.read d).2
  | sleep {d e : κ} {n : Nat} : Later c d → Clock.sleep n d = some e →
    Later c e
  | yield {d : κ} : Later c d → Later c (Clock.yield d)

theorem Later.trans {c d e : κ} (h : Later c d) (h' : Later d e) :
    Later c e := by
  induction h' with
  | refl => exact h
  | read _ ih => exact ih.read
  | sleep _ hsleep ih => exact ih.sleep hsleep
  | yield _ ih => exact ih.yield

/-- From one reading to the next a clock does not go back, and moves on if it
yields between them. How long it sleeps otherwise makes no difference. -/
structure Steady (c : κ) : Prop where
  reads {d : κ} : Later c d → now d ≤ now (read d).2
  yields {d : κ} : Later c d → now d + 1 ≤ now (yield (read d).2)

theorem Steady.later {c d : κ} (h : Steady c) (hd : Later c d) : Steady d where
  reads he := h.reads (hd.trans he)
  yields he := h.yields (hd.trans he)

theorem Steady.read {c : κ} (h : Steady c) : Steady (Clock.read c).2 :=
  h.later (.read .refl)

theorem Steady.yield {c : κ} (h : Steady c) : Steady (Clock.yield c) :=
  h.later (.yield .refl)

theorem Steady.now_le {c : κ} (h : Steady c) : now c ≤ now (Clock.read c).2 :=
  h.reads .refl

theorem Steady.now_lt_yield {c : κ} (h : Steady c) :
    now c + 1 ≤ now (Clock.yield (Clock.read c).2) :=
  h.yields .refl

end Clock

/-- A simulated clock is steady if no reading takes it back and each sleep
takes time. -/
theorem SimulatedClock.steady {c : SimulatedClock} (hread : 0 ≤ c.perRead)
    (hleast : 1 ≤ c.leastSleep) : Clock.Steady c := by
  have hkept {d : SimulatedClock} (hd : Clock.Later c d) :
      d.perRead = c.perRead ∧ d.leastSleep = c.leastSleep := by
    induction hd with
    | refl => exact ⟨rfl, rfl⟩
    | read _ ih => exact ih
    | @sleep d e n _ hsleep ih =>
        have hsleep : SimulatedClock.sleep n d = some e := hsleep
        unfold SimulatedClock.sleep at hsleep
        split at hsleep
        · cases hsleep
          exact ih
        · cases hsleep
    | yield _ ih => exact ih
  constructor
  · intro d hd
    have hperRead := (hkept hd).1
    change d.now ≤ d.now + d.perRead
    omega
  · intro d hd
    obtain ⟨hperRead, hleastSleep⟩ := hkept hd
    have hsleep : d.leastSleep ≤ d.sleepTime 0 := Int.le_max_right _ _
    change d.now + 1 ≤ d.now + d.perRead + d.sleepTime 0
    omega

namespace Timekeeper

variable {κ : Type} [Clock κ]

/-- When a tick that is about to start starts. -/
def started (t : Timekeeper κ) : Int :=
  t.startTick.1

/-- When the work of the tick is done: the first reading of the wait. -/
def arrived (t : Timekeeper κ) : Int :=
  t.startTick.2.now.1

/-- When the tick is over: the reading after the wait. -/
def finished (t : Timekeeper κ) : Int :=
  match t.startTick.2.waitForTickEnd with
  | .over t | .refused t => t.now.1

/-! ## Waiting -/

theorem exists_spins {c : κ} (h : Clock.Steady c) (deadline : Int) :
    ∃ n d, Spins deadline c n d := by
  -- each turn takes a nanosecond of those that are left
  induction hleft : (deadline - Clock.now c).toNat
      using Nat.strongRecOn generalizing c with
  | ind left ih =>
      by_cases hearly : Clock.now c < deadline
      · have hyield := h.now_lt_yield
        obtain ⟨n, d, hspins⟩ := ih _ (by omega) h.read.yield rfl
        exact ⟨n + 1, d, .turn hearly hspins⟩
      · exact ⟨0, _, .reached (Int.not_lt.mp hearly)⟩

namespace Spins

variable {deadline : Int} {c d : κ} {n : Nat}

theorem later (hspins : Spins deadline c n d) : Clock.Later c d := by
  induction hspins with
  | reached => exact .read .refl
  | turn _ _ ih => exact (Clock.Later.read .refl).yield.trans ih

theorem deadline_le (hspins : Spins deadline c n d) (h : Clock.Steady c) :
    deadline ≤ Clock.now d := by
  induction hspins with
  | reached hlate => exact Int.le_trans hlate h.now_le
  | turn _ _ ih => exact ih h.read.yield

end Spins

theorem spin_spec {c : κ} (h : Clock.Steady c) (deadline : Int)
    (t : Timekeeper κ) :
    ∃ d, spin deadline { t with clock := c } = { t with clock := d } ∧
      Clock.Steady d ∧ deadline ≤ Clock.now d := by
  obtain ⟨n, d, hspins⟩ := exists_spins h deadline
  exact ⟨d, hspins.spin_eq t, h.later hspins.later, hspins.deadline_le h⟩

theorem later_of_rest {margin remaining : Int} {c rested : κ}
    (hrest : rest margin remaining c = some rested) :
    Clock.Later c rested := by
  rcases rest_cases hrest with ⟨-, hsleep⟩ | ⟨-, rfl⟩
  · exact .sleep .refl hsleep
  · exact .refl

/-- A wait that is over is over at the deadline or later, and counted if it
came too late. -/
theorem waitUntil_spec {t t' : Timekeeper κ} {deadline : Int}
    (h : Clock.Steady t.clock) (hwait : t.waitUntil deadline = .over t') :
    (Clock.Steady t'.clock ∧ deadline ≤ Clock.now t'.clock) ∧
      t'.period = t.period ∧
      t'.overruns = t.overruns +
        if deadline ≤ Clock.now t.clock then 1 else 0 := by
  rw [waitUntil_eq] at hwait
  by_cases hlate : deadline ≤ Clock.now t.clock
  · rw [if_pos hlate] at hwait
    cases hwait
    rw [if_pos hlate]
    exact ⟨⟨h.read, Int.le_trans hlate h.now_le⟩, rfl, rfl⟩
  · rw [if_neg hlate] at hwait
    rw [if_neg hlate]
    cases hrest : rest t.margin (deadline - Clock.now t.clock)
        (Clock.read t.clock).2 with
    | none => simp [hrest] at hwait
    | some rested =>
        obtain ⟨d, hspin, hsteady, hreached⟩ :=
          spin_spec (h.read.later (later_of_rest hrest)) deadline t
        simp only [hrest, hspin] at hwait
        cases hwait
        exact ⟨⟨hsteady, hreached⟩, rfl, rfl⟩

structure OnTime (t t' : Timekeeper κ) : Prop where
  steady : Clock.Steady t'.clock
  period : t'.period = t.period
  finished : t.started + t.period ≤ t.finished
  next : t.finished ≤ t'.started
  overruns : t'.overruns =
    t.overruns + if t.started + t.period ≤ t.arrived then 1 else 0

theorem onTime_of_over {t u : Timekeeper κ} (h : Clock.Steady t.clock)
    (hover : t.startTick.2.waitForTickEnd = .over u) : t.OnTime u.now.2 := by
  have hfinished : t.finished = Clock.now u.clock := by
    rw [finished, hover]
    rfl
  have hdeadline : t.startTick.2.waitUntil (t.started + t.period) = .over u :=
    hover
  have hstart : Clock.Steady t.startTick.2.clock := h.read
  obtain ⟨⟨hsteady, hreached⟩, hperiod, hoverruns⟩ :=
    waitUntil_spec hstart hdeadline
  exact
    { steady := hsteady.read
      period := hperiod
      finished := by rwa [hfinished]
      next := by
        rw [hfinished]
        exact hsteady.now_le
      overruns := hoverruns }

/-- What is true of laps that were on time and took the timekeeper `t₀` to `t`;
the list holds the timekeepers at the start of each. -/
structure Paced (t₀ : Timekeeper κ) (ts : List (Timekeeper κ))
    (t : Timekeeper κ) : Prop where
  steady : Clock.Steady t.clock
  period : t.period = t₀.period
  /-- From the start of a tick to the start of the next one it is a period or
  more. -/
  starts : (ts ++ [t]).IsChain
    fun (s s' : Timekeeper κ) => s.started + t₀.period ≤ s'.started
  /-- Each tick takes a period or more, also after one that was late. -/
  finishes : ∀ s ∈ ts, s.started + t₀.period ≤ s.finished
  total : ∀ first ∈ ts.head?, ∀ last ∈ ts.getLast?,
    first.started + ts.length * t₀.period ≤ last.finished
  elapsed : ∀ first ∈ (ts ++ [t]).head?,
    first.started + ts.length * t₀.period ≤ t.started
  /-- A tick is an overrun if its work was not done before the end of its
  period. -/
  overruns : t.overruns =
    t₀.overruns +
      ts.countP fun (s : Timekeeper κ) => s.started + t₀.period ≤ s.arrived

theorem Paced.refl {t : Timekeeper κ} (h : Clock.Steady t.clock) :
    Paced t [] t :=
  ⟨h, rfl, by simp, by simp, by simp, by simp, rfl⟩

theorem Paced.concat {t₀ t t' : Timekeeper κ} {ts : List (Timekeeper κ)}
    (h : Paced t₀ ts t) (honTime : t.OnTime t') : Paced t₀ (ts ++ [t]) t' := by
  have hfinished := honTime.finished
  have hnext := honTime.next
  rw [h.period] at hfinished
  constructor
  case steady => exact honTime.steady
  case period => rw [honTime.period, h.period]
  case starts =>
    refine h.starts.append (List.isChain_singleton t') fun s hs s' hs' => ?_
    obtain rfl : s = t := by simpa using hs.symm
    obtain rfl : s' = t' := by simpa using hs'.symm
    exact Int.le_trans hfinished hnext
  case finishes =>
    intro s hs
    rcases List.mem_append.mp hs with hs | hs
    · exact h.finishes s hs
    · obtain rfl := List.mem_singleton.mp hs
      exact hfinished
  case total =>
    intro first hfirst last hlast
    obtain rfl : last = t := by simpa using hlast.symm
    have hbefore := h.elapsed first hfirst
    rw [List.length_append, List.length_singleton, Int.natCast_add,
      Int.add_mul]
    omega
  case elapsed =>
    intro first hfirst
    have hbefore := h.elapsed first (by simpa using hfirst)
    rw [List.length_append, List.length_singleton, Int.natCast_add,
      Int.add_mul]
    omega
  case overruns =>
    rw [honTime.overruns, h.overruns, h.period, List.countP_append,
      List.countP_singleton, Nat.add_assoc]
    simp

/-- A timekeeper whose clock was read and not slept on, and that waited for
nothing. -/
structure OnlyRead (t t' : Timekeeper κ) : Prop where
  clock : ∃ n, t'.clock = (fun c => (Clock.read c).2)^[n] t.clock
  overruns : t'.overruns = t.overruns

theorem OnlyRead.refl (t : Timekeeper κ) : t.OnlyRead t :=
  ⟨⟨0, rfl⟩, rfl⟩

theorem OnlyRead.trans {t t' t'' : Timekeeper κ} (h : t.OnlyRead t')
    (h' : t'.OnlyRead t'') :
    t.OnlyRead t'' := by
  obtain ⟨⟨n, hn⟩, hoverruns⟩ := h
  obtain ⟨⟨n', hn'⟩, hoverruns'⟩ := h'
  exact ⟨⟨n' + n, by rw [hn', hn, Function.iterate_add_apply]⟩,
    hoverruns'.trans hoverruns⟩

theorem onlyRead_now (t : Timekeeper κ) : t.OnlyRead t.now.2 :=
  ⟨⟨1, rfl⟩, rfl⟩

theorem onlyRead_startTick (t : Timekeeper κ) : t.OnlyRead t.startTick.2 :=
  ⟨⟨1, rfl⟩, rfl⟩

end Timekeeper

/-- A clock that runs on its use: the next readings take given times, and a
sleep takes as long as it was asked for, but at least a nanosecond. -/
structure Stopwatch where
  now : Int
  delays : List Nat

namespace Stopwatch

instance : Clock Stopwatch where
  read c := (c.now, ⟨c.now + c.delays.headD 0, c.delays.tail⟩)
  sleep n c := some { c with now := c.now + max 1 n }
  yield c := { c with now := c.now + 1 }

theorem steady (c : Stopwatch) : Clock.Steady c where
  reads {d} _ := by
    change d.now ≤ d.now + d.delays.headD 0
    omega
  yields {d} _ := by
    change d.now + 1 ≤ d.now + d.delays.headD 0 + 1
    omega

end Stopwatch

def Lap.keeper {ρ δ κ : Type} : Lap ρ δ κ → Timekeeper κ
  | .passed _ t | .ended _ t _ _ => t

namespace Machine

variable {ρ δ κ : Type} [RandomSource ρ] [Devices δ] [Clock κ]

/-- In a lap that passes the clock is used by the start of the tick, by the
wait, and by one reading after it. -/
theorem keeper_of_passed {m m' : Machine ρ δ} {t t' : Timekeeper κ}
    {paced : Bool} (hlap : m.lap paced t = .passed m' t') :
    ∃ u, (if paced then t.startTick.2.waitForTickEnd
      else .over t.startTick.2) = .over u ∧ t' = u.now.2 := by
  rcases lap_cases m paced t
    with ⟨_, h | h⟩ | ⟨_, _, -, h⟩ | ⟨_, u, hwait, h | h⟩ <;>
    rw [h] at hlap <;> cases hlap
  exact ⟨u, hwait, rfl⟩

theorem keeper_of_overlong {m m' : Machine ρ δ} {t t' : Timekeeper κ}
    {paced : Bool} {ticks : Nat}
    (hlap : m.lap paced t = .ended m' t' ticks .overlong) :
    (if paced then t.startTick.2.waitForTickEnd else .over t.startTick.2) =
      .refused t' ∨ ∃ u, (if paced then t.startTick.2.waitForTickEnd
        else .over t.startTick.2) = .over u ∧ t' = u.now.2 := by
  rcases lap_cases m paced t
    with ⟨_, h | h⟩ | ⟨_, _, hwait, h⟩ | ⟨_, u, hwait, h | h⟩ <;>
    rw [h] at hlap <;> cases hlap
  · exact .inl hwait
  · exact .inr ⟨u, hwait, rfl⟩

/-- Laps that passed, with anything from outside between them; the list holds
the timekeepers at the start of each lap. -/
inductive Laps (paced : Bool) (m₀ : Machine ρ δ) (t₀ : Timekeeper κ) :
    List (Timekeeper κ) → Machine ρ δ → Timekeeper κ → Prop
  | start : Laps paced m₀ t₀ [] m₀ t₀
  | outside {ts m t} (s : Stimulus) : Laps paced m₀ t₀ ts m t →
    Laps paced m₀ t₀ ts (m.respond s) t
  | lap {ts m t m' t'} : Laps paced m₀ t₀ ts m t →
    m.lap paced t = .passed m' t' → Laps paced m₀ t₀ (ts ++ [t]) m' t'

theorem Laps.paced {m₀ m : Machine ρ δ} {t₀ t : Timekeeper κ}
    {ts : List (Timekeeper κ)} (h : Laps true m₀ t₀ ts m t)
    (h₀ : Clock.Steady t₀.clock) : t₀.Paced ts t := by
  induction h with
  | start => exact .refl h₀
  | outside _ _ ih => exact ih
  | lap _ hlap ih =>
      obtain ⟨u, hover, rfl⟩ := keeper_of_passed hlap
      exact ih.concat (Timekeeper.onTime_of_over ih.steady hover)

/-! ## Runs -/

theorem Laps.cons {paced : Bool} {m m₁ m' : Machine ρ δ}
    {t t₁ t' : Timekeeper κ} {ts : List (Timekeeper κ)}
    (hlap : m.lap paced t = .passed m₁ t₁) (h : Laps paced m₁ t₁ ts m' t') :
    Laps paced m t (t :: ts) m' t' := by
  induction h with
  | start => exact Laps.start.lap hlap
  | outside s _ ih => exact ih.outside s
  | lap _ hlap' ih => exact ih.lap hlap'

/-- How a run of at most `limit` ticks ends when it has come to a machine and a
timekeeper after so many. -/
inductive Ends (paced : Bool) (stop : Machine ρ δ → Bool) (limit : Nat)
    (m : Machine ρ δ) (t : Timekeeper κ) : Nat → Run ρ δ κ → Prop
  | exhausted : Ends paced stop limit m t limit ⟨m, t, limit, .exhausted⟩
  | stopped {n}
    (h : stop m = true) : Ends paced stop limit m t n ⟨m, t, n, .stopped⟩
  | ended {n m' t' ticks ending}
    (h : m.lap paced t = .ended m' t' ticks ending) :
      Ends paced stop limit m t n ⟨m', t', n + ticks, ending⟩

/-- A run is laps that pass, until it ends. -/
theorem exists_laps_of_runFrom (paced : Bool) (stop : Machine ρ δ → Bool)
    (executed limit : Nat) (m : Machine ρ δ) (t : Timekeeper κ) :
    ∃ ts m' t', Laps paced m t ts m' t' ∧
      Ends paced stop (executed + limit) m' t' (executed + ts.length)
        (runFrom paced stop executed limit m t) := by
  induction limit generalizing executed m t with
  | zero => exact ⟨[], m, t, .start, .exhausted⟩
  | succ limit ih =>
      rw [runFrom]
      by_cases hstop : stop m = true
      · rw [if_pos hstop]
        exact ⟨[], m, t, .start, .stopped hstop⟩
      · rw [if_neg hstop]
        cases hlap : m.lap paced t with
        | passed m₁ t₁ =>
            obtain ⟨ts, m', t', hlaps, hends⟩ := ih (executed + 1) m₁ t₁
            refine ⟨t :: ts, m', t', .cons hlap hlaps, ?_⟩
            have hlimit : executed + (limit + 1) = executed + 1 + limit := by
              omega
            have hcount :
                executed + (t :: ts).length = executed + 1 + ts.length := by
              rw [List.length_cons]
              omega
            rw [hlimit, hcount]
            exact hends
        | ended m' t' ticks ending => exact ⟨[], m, t, .start, .ended hlap⟩

theorem onlyRead_lap (m : Machine ρ δ) (t : Timekeeper κ) :
    t.OnlyRead (m.lap false t).keeper := by
  rcases lap_cases m false t
    with ⟨_, h | h⟩ | ⟨_, _, hwait, -⟩ | ⟨_, u, hwait, h⟩
  · rw [h]
    exact t.onlyRead_startTick
  · rw [h]
    exact t.onlyRead_startTick
  · simp at hwait
  · obtain rfl : t.startTick.2 = u := by simpa using hwait
    rcases h with h | h <;> rw [h] <;>
      exact t.onlyRead_startTick.trans t.startTick.2.onlyRead_now

theorem onlyRead_runFrom (stop : Machine ρ δ → Bool) (executed limit : Nat)
    (m : Machine ρ δ) (t : Timekeeper κ) :
    t.OnlyRead (runFrom false stop executed limit m t).keeper := by
  induction limit generalizing executed m t with
  | zero => exact .refl t
  | succ limit ih =>
      have hlap := onlyRead_lap m t
      rw [runFrom]
      split
      · exact .refl t
      · cases h : m.lap false t with
        | passed m' t' =>
            rw [h] at hlap
            exact hlap.trans (ih _ _ _)
        | ended m' t' ticks ending =>
            rw [h] at hlap
            exact hlap

/-- On a steady clock paced laps are on time, however long the work of each
tick takes, and so is a last one that ends the run after its tick, unless its
wait is refused. Every run is laps that pass until it ends, so this is true of
every paced run; and one that is not paced reads the clock and nothing else. -/
theorem pacing_of_run (m : Machine ρ δ) (t : Timekeeper κ) :
    (Clock.Steady t.clock → ∀ {ts m' t'}, Laps true m t ts m' t' →
      t.Paced ts t' ∧
      ∀ {m'' t'' ticks}, m'.lap true t' = .ended m'' t'' ticks .overlong →
        t'.startTick.2.waitForTickEnd = .refused t'' ∨
          t.Paced (ts ++ [t']) t'') ∧
    (∀ (paced : Bool) (stop : Machine ρ δ → Bool) (limit : Int), ∃ ts m' t',
      Laps paced m t ts m' t' ∧
        Ends paced stop limit.toNat m' t' ts.length
          (m.run t paced stop limit)) ∧
    ∀ (stop : Machine ρ δ → Bool) (limit : Int),
      t.OnlyRead (m.run t false stop limit).keeper := by
  refine ⟨?_, ?_, fun stop limit => onlyRead_runFrom stop 0 limit.toNat m t⟩
  · intro hsteady ts m' t' h
    have hpaced := h.paced hsteady
    refine ⟨hpaced, fun hlap => ?_⟩
    rcases keeper_of_overlong hlap with hrefused | ⟨u, hover, rfl⟩
    · exact .inl hrefused
    · exact .inr
        (hpaced.concat (Timekeeper.onTime_of_over hpaced.steady hover))
  · intro paced stop limit
    have hlaps := exists_laps_of_runFrom paced stop 0 limit.toNat m t
    simp only [Nat.zero_add] at hlaps
    exact hlaps

/-- Three ticks, the second of which is late: it is counted, and the third one
still takes its period. -/
theorem late_tick_not_made_up_for :
    let m : Machine CycledBytes (List Signal) :=
      (powerOn {} ⟨[], []⟩ []).respond (.load "spin" 512 [0x12, 0x00])
    let t : Timekeeper Stopwatch :=
      { period := 10
        margin := 4
        clock := ⟨0, [3, 0, 0, 0, 0, 0, 0, 0, 25, 0, 0, 1]⟩
        period_pos := by decide }
    Clock.Steady t.clock ∧ ∃ ts m' t', Laps true m t ts m' t' ∧ ts.length = 3 ∧
      t'.overruns = 1 ∧ t'.started = 45 ∧ t.Paced ts t' := by
  intro m t
  have hsteady : Clock.Steady t.clock := t.clock.steady
  obtain ⟨hpaced, hlaps, -⟩ := pacing_of_run m t
  obtain ⟨ts, m', t', h, hends⟩ := hlaps true (fun _ => false) 3
  have hfirst : Timekeeper.Spins 10 (⟨6, t.clock.delays.drop 2⟩ : Stopwatch) 4
      ⟨10, t.clock.delays.drop 7⟩ :=
    .turn (by decide) (.turn (by decide) (.turn (by decide) (.turn (by decide)
      (.reached (by decide)))))
  have hthird : Timekeeper.Spins 45 (⟨41, []⟩ : Stopwatch) 4 ⟨45, []⟩ :=
    .turn (by decide) (.turn (by decide) (.turn (by decide) (.turn (by decide)
      (.reached (by decide)))))
  have hpass : t.Passes true m.config.hz 3 m.meter
      { t with tickStart := some 35, overruns := 1, clock := ⟨45, []⟩ }
      ⟨3, 45⟩ := by
    refine .lap
      (.kept (.early (by decide) (if_pos (by decide)) hfirst) (by decide)) ?_
    refine .lap (.kept (.late (by decide)) (by decide)) ?_
    exact .lap (.kept (.early (by decide) (if_pos (by decide)) hthird)
      (by decide)) .none
  have hin : m.InRange := respond_inRange (powerOn_inRange _ _ _) _
  have hkeys : ∀ s ∈ m.tickStarts (List.replicate 3 []), ¬ s.WaitsInVain := by
    decide +kernel
  have hsame : m.Same m := (Same.powerOn {} _ _ rfl).respond _
  obtain ⟨_, hamid, -⟩ := runAmidFrom_beside hsame hin hkeys hpass 0
  have hrun : (m.run t true (fun _ => false) 3).ending = .exhausted ∧
      (m.run t true (fun _ => false) 3).keeper.overruns = 1 ∧
      (m.run t true (fun _ => false) 3).keeper.started = 45 := by
    have hruns := (m.run_eq_runAmid t true 3).trans hamid
    rw [hruns]
    exact ⟨rfl, rfl, rfl⟩
  refine ⟨hsteady, ts, m', t', h, ?_⟩
  generalize m.run t true (fun _ => false) 3 = run at hends hrun
  generalize hn : ts.length = n at hends
  obtain ⟨hending, hoverruns, hstarted⟩ := hrun
  cases hends with
  | exhausted => exact ⟨rfl, hoverruns, hstarted, (hpaced hsteady h).1⟩
  | stopped hstop => exact absurd hstop Bool.false_ne_true
  | ended hlap => exact absurd hending (ending_ne_exhausted hlap)

end Machine

end Chip8
