import Chip8.Machine.Run
import Chip8.Proofs.FrameRate
import Chip8.Proofs.Quotient
import Mathlib.Data.Rat.Floor
import Mathlib.Tactic.Linarith

/-!
# Safe clock rates

A clock rate that is accepted leads to a machine that can be built and paced,
and that never does the frame work more than sixty times within its rate of
ticks.

The ticks of a frame are the rate divided by sixty, rounded up. The quotient
may just as well be rounded to a double first: a double has an error that is
too small to get from one side of a whole number to the other, unless the
quotient is that number (`Numeric.Rounds.ceil_eq`).

A stretch is what happens to a machine without a reset (`Machine.Stretch`), and
a window is a number of its ticks, one after the other; before a stretch
anything may have happened, resets included (`Machine.Lived`). A run is a
stretch (`Machine.Stretch.runFrom`). A tick that is not completed is in the
window too. The frame divider has counted all the frame work of a window,
wherever it stood when the window began.
-/

namespace Chip8

namespace Numeric

/-- To round up a quotient of whole numbers, it may be rounded to a double
first. -/
theorem Rounds.ceil_eq {n d : ℕ} {y : ℚ} (h : Rounds (n / d) y)
    (hn : n < 2 ^ 53) (hd : 0 < d) :
    ⌈y⌉ = ⌈(n / d : ℚ)⌉ := by
  have hd' : (0 : ℚ) < d := by exact_mod_cast hd
  generalize hc : ⌈(n / d : ℚ)⌉ = c
  obtain ⟨hbelow, habove⟩ := Int.ceil_eq_iff.mp hc
  rw [div_le_iff₀ hd'] at habove
  rw [lt_div_iff₀ hd'] at hbelow
  have habove' : (n : ℤ) ≤ c * d := by exact_mod_cast habove
  have hbelow' : (c - 1) * d < (n : ℤ) := by exact_mod_cast hbelow
  rcases habove'.eq_or_lt with hwhole | hlt
  · obtain ⟨q, rfl⟩ : ∃ q : ℕ, c = q := Int.eq_ofNat_of_zero_le (by nlinarith)
    have hquotient : (n : ℚ) / d = q := by
      rw [div_eq_iff hd'.ne']
      exact_mod_cast hwhole
    rw [h.kept q hquotient, Int.ceil_natCast]
  · -- the quotient is at least `1 / d` from the whole numbers, the error less
    have hgap : (n : ℚ) / d / 2 ^ 53 < 1 / d := by
      have hn' : (n : ℚ) < 2 ^ 53 := by exact_mod_cast hn
      rw [div_right_comm, div_lt_div_iff_of_pos_right hd',
        div_lt_one (by norm_num)]
      exact hn'
    have hupper : (n : ℚ) / d ≤ c - 1 / d := by
      have : (n : ℚ) ≤ c * d - 1 := by exact_mod_cast Int.le_sub_one_of_lt hlt
      rw [div_le_iff₀ hd', sub_mul, div_mul_cancel₀ _ hd'.ne']
      exact this
    have hlower : (c : ℚ) - 1 + 1 / d ≤ n / d := by
      have : ((c : ℚ) - 1) * d + 1 ≤ n := by exact_mod_cast hbelow'
      rw [le_div_iff₀ hd', add_mul, div_mul_cancel₀ _ hd'.ne']
      exact this
    obtain ⟨hleft, hright⟩ := abs_le.mp h.error
    rw [Int.ceil_eq_iff]
    constructor <;> linarith

end Numeric

/-! ## Rates and periods -/

namespace Config

theorem hz_of_ofHz_eq_ok {hz : Int} {shiftUsesVy : Bool} {seed : Option Int}
    {c : Config} (h : ofHz hz shiftUsesVy seed = .ok c) :
    (c.hz : Int) = hz := by
  unfold ofHz at h
  split at h
  · cases h
  next hpos =>
    split at h <;> cases h
    exact Int.toNat_of_nonneg (by omega)

theorem exists_ofHz_eq_ok_iff (hz : Int) (shiftUsesVy : Bool)
    (seed : Option Int) :
    (∃ c, ofHz hz shiftUsesVy seed = .ok c) ↔ 1 ≤ hz ∧ hz ≤ 1000000000 := by
  constructor
  · rintro ⟨c, h⟩
    have hz_eq := hz_of_ofHz_eq_ok h
    have hpos := c.hz_pos
    have hle := c.hz_le
    omega
  · rintro ⟨hlow, hhigh⟩
    refine ⟨⟨hz.toNat, shiftUsesVy, seed, by omega, by omega⟩, ?_⟩
    rw [ofHz, dif_neg (by omega), dif_neg (by omega)]

/-- The ticks of a frame as a double, before it is rounded up. -/
def roundedFrame (c : Config) : Numeric.Double :=
  .ofFloat (Numeric.floatOfInt c.hz / Numeric.floatOfInt framesPerSecond)

theorem ceil_frame_eq (c : Config) :
    ⌈(c.hz / framesPerSecond : ℚ)⌉ = c.ticksPerFrame := by
  rw [Rat.ceil_natCast_div_natCast]
  simp only [framesPerSecond, ticksPerFrame]
  omega

theorem hz_lt_two_pow (c : Config) : c.hz < 2 ^ 53 :=
  lt_of_le_of_lt c.hz_le (by norm_num)

theorem ceil_eq_of_rounds (c : Config) {y : ℚ}
    (h : Numeric.Rounds (c.hz / framesPerSecond) y) :
    ⌈y⌉ = c.ticksPerFrame :=
  (h.ceil_eq c.hz_lt_two_pow (by decide)).trans c.ceil_frame_eq

theorem rounds_roundedFrame (c : Config) :
    Numeric.Rounds (c.hz / framesPerSecond) c.roundedFrame.value :=
  Numeric.rounds_div c.hz_pos c.hz_lt_two_pow (by decide) (by decide)

theorem nanosPerSecond_sub_lt (c : Config) :
    (nanosPerSecond : Int) - c.hz < c.hz * c.nanosPerTick := by
  have hsplit := Nat.div_add_mod nanosPerSecond c.hz
  have hlt := Nat.mod_lt nanosPerSecond c.hz_pos
  have hnat : nanosPerSecond < c.hz * c.nanosPerTick + c.hz := by
    change nanosPerSecond < c.hz * (nanosPerSecond / c.hz) + c.hz
    omega
  have hint : (nanosPerSecond : Int) < c.hz * c.nanosPerTick + c.hz := by
    exact_mod_cast hnat
  omega

theorem ofPeriod_ticksPerFrame (c : Config) :
    FrameDivider.ofPeriod c.ticksPerFrame =
      .ok (.start c.ticksPerFrame c.ticksPerFrame_pos) := by
  have hpos : (1 : Int) ≤ c.ticksPerFrame := by
    exact_mod_cast c.ticksPerFrame_pos
  exact dif_pos hpos

theorem ofPeriod_nanosPerTick {κ : Type} (c : Config) (margin : Int)
    (clock : κ) :
    ∃ t, Timekeeper.ofPeriod c.nanosPerTick margin clock = .ok t ∧
      t.period = c.nanosPerTick := by
  have hpos : (0 : Int) < c.nanosPerTick := by
    exact_mod_cast c.nanosPerTick_pos
  exact ⟨_, dif_pos hpos, Int.toNat_natCast _⟩

/-- What is true of a machine's settings, whatever rate was accepted. -/
structure IsSafe (c : Config) : Prop where
  ceil_frame : ⌈(c.hz / framesPerSecond : ℚ)⌉ = c.ticksPerFrame
  rounds_frame : Numeric.Rounds (c.hz / framesPerSecond) c.roundedFrame.value
  ceil_roundedFrame : ⌈c.roundedFrame.value⌉ = c.ticksPerFrame
  ceil_rounded {y : ℚ} :
    Numeric.Rounds (c.hz / framesPerSecond) y → ⌈y⌉ = c.ticksPerFrame
  frame_pos : 1 ≤ c.ticksPerFrame
  tick_pos : 1 ≤ c.nanosPerTick
  second_below : (nanosPerSecond : Int) - c.hz < c.hz * c.nanosPerTick
  second_above : c.hz * c.nanosPerTick ≤ nanosPerSecond
  divider : FrameDivider.ofPeriod c.ticksPerFrame =
    .ok (.start c.ticksPerFrame c.ticksPerFrame_pos)
  keeper {κ : Type} (margin : Int) (clock : κ) :
    ∃ t, Timekeeper.ofPeriod c.nanosPerTick margin clock = .ok t ∧
      t.period = c.nanosPerTick

theorem isSafe (c : Config) : c.IsSafe where
  ceil_frame := c.ceil_frame_eq
  rounds_frame := c.rounds_roundedFrame
  ceil_roundedFrame := c.ceil_eq_of_rounds c.rounds_roundedFrame
  ceil_rounded := c.ceil_eq_of_rounds
  frame_pos := c.ticksPerFrame_pos
  tick_pos := c.nanosPerTick_pos
  second_below := c.nanosPerSecond_sub_lt
  second_above := Nat.mul_div_le nanosPerSecond c.hz
  divider := c.ofPeriod_ticksPerFrame
  keeper := c.ofPeriod_nanosPerTick

end Config

/-! ## Stretches and windows of ticks -/

/-- So many periods of ticks make no more frames, wherever the divider
stands. -/
theorem FrameDivider.elapsed_le {d : FrameDivider} (h : d.InRange) {n k : Nat}
    (hn : n ≤ k * d.period) : d.elapsed n ≤ k := by
  have hpos : (0 : Int) < d.period := by exact_mod_cast d.period_pos
  have hcast : (n : Int) ≤ k * d.period := by exact_mod_cast hn
  have hcount : d.count < d.period := h.2
  refine Int.lt_add_one_iff.mp (Int.ediv_lt_of_lt_mul hpos ?_)
  linarith

def Lap.machine {ρ δ κ : Type} : Lap ρ δ κ → Machine ρ δ
  | .passed m _ | .ended m _ _ _ => m

def Lap.ticks {ρ δ κ : Type} : Lap ρ δ κ → Nat
  | .passed _ _ => 1
  | .ended _ _ ticks _ => ticks

namespace Machine

variable {ρ δ : Type} [RandomSource ρ] [Devices δ]

/-- What happens to a machine between two ticks, apart from resets: it is acted
on from outside, or a run accounts for the time of a tick or reports the
speed. -/
inductive Between : Machine ρ δ → Machine ρ δ → Prop
  | outside (m) (s : Stimulus) : Between m (m.respond s)
  | timed (m) (elapsed : Int) : Between m (m.account elapsed)
  | reported {m m'} : m.reportSpeed? = some m' → Between m m'

/-- Some life takes a machine at power-on there, with ticks that are completed
or not, resets and whatever else happens. -/
inductive Lived : Machine ρ δ → Prop
  | powerOn (config random devices) : Lived (powerOn config random devices)
  | between {m m'} : Lived m → Between m m' → Lived m'
  | tick {m} : Lived m → Lived m.next
  | reset {m} : Lived m → Lived m.reset

/-- A stretch without a reset takes the first machine to the last one; the list
holds the machines at the start of its ticks, completed or not. -/
inductive Stretch (m₀ : Machine ρ δ) : List (Machine ρ δ) → Machine ρ δ → Prop
  | start : Stretch m₀ [] m₀
  | between {ms m m'} : Stretch m₀ ms m → Between m m' → Stretch m₀ ms m'
  | tick {ms m} : Stretch m₀ ms m → Stretch m₀ (ms ++ [m]) m.next

/-- How often the next tick does the frame work; a tick that is not completed
does not. -/
def works (m : Machine ρ δ) : Nat :=
  if m.completes then m.framesDue else 0

/-- The machine when the next tick comes to the frame work, or when it is
left. -/
def beforeWorks (m : Machine ρ δ) : Machine ρ δ :=
  if m.completes then (m.withOutcome m.afterInstruction).counted
  else m.withOutcome m.afterInstruction

theorem next_eq_frameWorks (m : Machine ρ δ) :
    m.next = frameWorks m.works m.beforeWorks := by
  unfold next works beforeWorks completes afterInstruction
  rw [step_eq]
  cases m.outcome with
  | done c =>
      simp only [Outcome.value, if_true, finishTick_eq_frameWorks, framesDue,
        withOutcome_divider]
  | stalled c => rfl
  | unfit c => rfl

theorem next_divider (m : Machine ρ δ) :
    m.next.divider = if m.completes then m.divider.advance 1
      else m.divider := by
  unfold next completes
  rw [step_eq]
  cases m.outcome with
  | done c =>
      obtain ⟨_, -, hf⟩ := finishTick_eq_framesDue (m.withOutcome c)
      simp only [hf, withOutcome_divider, if_true]
  | stalled c => simp
  | unfit c => simp

theorem next_config (m : Machine ρ δ) : m.next.config = m.config := by
  unfold next
  rw [step_eq]
  cases m.outcome with
  | done c =>
      obtain ⟨_, -, hf⟩ := finishTick_eq_framesDue (m.withOutcome c)
      simp only [hf, withOutcome_config]
  | stalled c => simp
  | unfit c => simp

variable {m₀ m m' : Machine ρ δ} {ms : List (Machine ρ δ)}

omit [RandomSource ρ] [Devices δ] in
theorem Between.eq (h : Between m m') :
    ∃ core meter, m' = { m with core, meter } := by
  cases h with
  | outside s =>
      obtain ⟨memory, keypad, arrivals, events, hs⟩ := m.respond_eq s
      exact ⟨_, m.meter, hs⟩
  | timed elapsed => exact ⟨m.core, _, rfl⟩
  | reported h =>
      unfold reportSpeed? at h
      split at h
      · cases h
        exact ⟨m.core, m.meter, rfl⟩
      · split at h <;> cases h
        exact ⟨_, {}, rfl⟩

theorem Lived.divider (h : m.Lived) :
    m.divider.InRange ∧ m.divider.period = m.config.ticksPerFrame := by
  induction h with
  | powerOn config random devices =>
    exact ⟨FrameDivider.start_inRange _ _, rfl⟩
  | between _ hb ih =>
      obtain ⟨_, _, rfl⟩ := hb.eq
      exact ih
  | @tick m _ ih =>
      rw [next_divider, next_config]
      split
      · exact ⟨FrameDivider.advance_inRange _ _, ih.2⟩
      · exact ih
  | reset _ ih => exact ⟨FrameDivider.start_inRange _ _, ih.2⟩

namespace Stretch

theorem lived (h : Stretch m₀ ms m) (h₀ : m₀.Lived) : m.Lived := by
  induction h with
  | start => exact h₀
  | between _ hb ih => exact ih.between hb
  | tick _ ih => exact ih.tick

theorem config_eq (h : Stretch m₀ ms m) : m.config = m₀.config := by
  induction h with
  | start => rfl
  | between _ hb ih =>
      obtain ⟨_, _, rfl⟩ := hb.eq
      exact ih
  | @tick ms m _ ih => rw [next_config, ih]

/-- A stretch may be parted before any of its ticks. -/
theorem split {ks : List (Machine ρ δ)} (h : Stretch m₀ (ms ++ ks) m) :
    ∃ m₁, Stretch m₀ ms m₁ ∧ Stretch m₁ ks m := by
  generalize hall : ms ++ ks = all at h
  induction h generalizing ks with
  | start =>
      obtain ⟨rfl, rfl⟩ := List.append_eq_nil_iff.mp hall
      exact ⟨m₀, .start, .start⟩
  | between _ hb ih =>
      obtain ⟨m₁, hfirst, hsecond⟩ := ih hall
      exact ⟨m₁, hfirst, hsecond.between hb⟩
  | @tick all m h ih =>
      rcases List.eq_nil_or_concat ks with rfl | ⟨ks, last, rfl⟩
      · rw [List.append_nil] at hall
        exact ⟨m.next, hall ▸ h.tick, .start⟩
      · rw [List.concat_eq_append, ← List.append_assoc] at hall
        obtain ⟨hold, hlast⟩ := List.append_inj' hall rfl
        obtain rfl := List.singleton_inj.mp hlast
        obtain ⟨m₁, hfirst, hsecond⟩ := ih hold
        exact ⟨m₁, hfirst, List.concat_eq_append ▸ hsecond.tick⟩

/-- The divider has counted the completed ticks of a stretch and all of its
frame work. -/
theorem divider_eq (h : Stretch m₀ ms m) (h₀ : m₀.divider.InRange) :
    m.divider = m₀.divider.advance (ms.countP (·.completes)) ∧
      ((ms.map works).sum : Int) = m.divider.frames - m₀.divider.frames := by
  induction h with
  | start => exact ⟨(FrameDivider.advance_zero h₀).symm, (Int.sub_self _).symm⟩
  | between _ hb ih =>
      obtain ⟨_, _, rfl⟩ := hb.eq
      exact ih
  | @tick ms m _ ih =>
      obtain ⟨hdivider, hworks⟩ := ih
      have hin : m.divider.InRange :=
        hdivider ▸ FrameDivider.advance_inRange _ _
      have hdue : 0 ≤ m.divider.elapsed 1 := by
        rw [FrameDivider.elapsed_one hin]
        split <;> decide
      simp only [next_divider, List.countP_append, List.countP_singleton,
        List.map_append, List.sum_append, List.map_singleton,
        List.sum_singleton, works, framesDue]
      split
      · refine ⟨?_, ?_⟩
        · rw [hdivider, FrameDivider.advance_advance]
          rfl
        · rw [Nat.cast_add, hworks, Int.toNat_of_nonneg hdue]
          simp only [FrameDivider.advance]
          omega
      · exact ⟨hdivider, by rw [Nat.cast_add, hworks, Nat.cast_zero, add_zero]⟩

/-- In as many ticks as there are in a second the frame work is done at most
sixty times. -/
theorem sum_works_le (h : Stretch m₀ ms m) (h₀ : m₀.Lived)
    (hlength : ms.length ≤ m₀.config.hz) :
    (ms.map works).sum ≤ framesPerSecond := by
  obtain ⟨hin, hperiod⟩ := h₀.divider
  obtain ⟨hdivider, hworks⟩ := h.divider_eq hin
  have hcount :
      ms.countP (·.completes) ≤ framesPerSecond * m₀.divider.period := by
    have hle :=
      List.countP_le_length (p := fun k : Machine ρ δ => k.completes) (l := ms)
    rw [hperiod]
    simp only [framesPerSecond, Config.ticksPerFrame]
    omega
  have hframes := FrameDivider.elapsed_le hin hcount
  rw [hdivider] at hworks
  simp only [FrameDivider.advance] at hworks
  omega

theorem sum_works_window_le (h : Stretch m₀ ms m) (h₀ : m₀.Lived)
    {ks : List (Machine ρ δ)} (hwindow : ks <:+: ms)
    (hlength : ks.length ≤ m₀.config.hz) :
    (ks.map works).sum ≤ framesPerSecond := by
  obtain ⟨before, after, rfl⟩ := hwindow
  obtain ⟨m₂, h₂, -⟩ := h.split
  obtain ⟨m₁, h₁, h₁₂⟩ := h₂.split
  exact h₁₂.sum_works_le (h₁.lived h₀) (h₁.config_eq ▸ hlength)

end Stretch

/-! ## Runs -/

section Run

variable {κ : Type} [Clock κ]

omit [RandomSource ρ] [Devices δ] in
theorem ticks_settle (m : Machine ρ δ) (paced : Bool) (start : Int)
    (t : Timekeeper κ) :
    (m.settle paced start t).ticks = 1 := by
  unfold settle
  split
  · rfl
  · dsimp only
    split <;> rfl

namespace Stretch

theorem settle (h : Stretch m₀ ms m) (paced : Bool) (start : Int)
    (t : Timekeeper κ) :
    Stretch m₀ ms (m.settle paced start t).machine := by
  unfold Machine.settle
  split
  · exact h
  · have htimed (elapsed : Int) := h.between (.timed m elapsed)
    dsimp only
    split
    next => exact htimed _
    next hreported => exact (htimed _).between (.reported hreported)

theorem lap (h : Stretch m₀ ms m) (paced : Bool) (t : Timekeeper κ) :
    Stretch m₀ (ms ++ [m]) (m.lap paced t).machine ∧
      (m.lap paced t).ticks = if m.completes then 1 else 0 := by
  have hnext := h.tick
  unfold Machine.next at hnext
  unfold Machine.lap completes
  cases hstep : m.step with
  | done _ m' =>
      rw [hstep] at hnext
      exact ⟨hnext.settle _ _ _, ticks_settle _ _ _ _⟩
  | stalled m' | unfit m' =>
      rw [hstep] at hnext
      exact ⟨hnext, rfl⟩

/-- A run goes on with a stretch, and has done the ticks that were
completed. -/
theorem runFrom (h : Stretch m₀ ms m) (paced : Bool)
    (stop : Machine ρ δ → Bool) (executed limit : Nat) (t : Timekeeper κ) :
    ∃ ks, Stretch m₀ (ms ++ ks)
      (m.runFrom paced stop executed limit t).machine ∧
      (m.runFrom paced stop executed limit t).executed =
        executed + ks.countP (·.completes) := by
  induction limit generalizing ms m executed t with
  | zero => exact ⟨[], (List.append_nil ms).symm ▸ h, rfl⟩
  | succ limit ih =>
      obtain ⟨hlap, hticks⟩ := h.lap paced t
      have hcompletes : [m].countP (·.completes) = (m.lap paced t).ticks := by
        rw [List.countP_singleton, hticks]
      rw [Machine.runFrom]
      split
      · exact ⟨[], (List.append_nil ms).symm ▸ h, rfl⟩
      · cases hend : m.lap paced t with
        | passed m' t' =>
            rw [hend] at hlap hcompletes
            obtain ⟨ks, hks, hexecuted⟩ := ih hlap (executed + 1) t'
            refine ⟨m :: ks, List.append_cons .. ▸ hks, hexecuted.trans ?_⟩
            rw [← List.singleton_append, List.countP_append, hcompletes,
              Nat.add_assoc]
            rfl
        | ended m' t' ticks ending =>
            rw [hend] at hlap hcompletes
            exact ⟨[m], hlap, congrArg (executed + ·) hcompletes.symm⟩

end Stretch

end Run

/-- Which clock rates are accepted, what follows for the periods of frames and
ticks, and how often the frame work is done in a window of any run. -/
theorem safe_rates_and_frames_of_window :
    (∀ (hz : Int) (shiftUsesVy : Bool) (seed : Option Int),
      ((∃ c, Config.ofHz hz shiftUsesVy seed = .ok c) ↔
        1 ≤ hz ∧ hz ≤ 1000000000) ∧
        ∀ c, Config.ofHz hz shiftUsesVy seed = .ok c → (c.hz : Int) = hz) ∧
      (∀ c : Config, c.IsSafe) ∧
      (∀ (m₀ m : Machine ρ δ) (ms : List (Machine ρ δ)),
        m₀.Lived → Stretch m₀ ms m →
        (∀ k ∈ ms, k.next = frameWorks k.works k.beforeWorks) ∧
          ∀ ks, ks <:+: ms → ks.length ≤ m₀.config.hz →
            (ks.map works).sum ≤ framesPerSecond) ∧
      ∀ {κ : Type} [Clock κ] (m : Machine ρ δ) (t : Timekeeper κ)
        (paced : Bool) (stop : Machine ρ δ → Bool) (limit : Int),
        ∃ ms, Stretch m ms (m.run t paced stop limit).machine ∧
          (m.run t paced stop limit).executed = ms.countP (·.completes) := by
  refine ⟨?_, Config.isSafe, ?_, ?_⟩
  · intro hz shiftUsesVy seed
    exact ⟨Config.exists_ofHz_eq_ok_iff hz shiftUsesVy seed, fun c =>
      Config.hz_of_ofHz_eq_ok⟩
  · intro m₀ m ms h₀ h
    exact ⟨fun k _ => k.next_eq_frameWorks, fun ks => h.sum_works_window_le h₀⟩
  · intro κ _ m t paced stop limit
    obtain ⟨ms, h, hexecuted⟩ :=
      Stretch.start.runFrom paced stop 0 limit.toNat t
    exact ⟨ms, h, hexecuted.trans (Nat.zero_add _)⟩

/-- A rate that is no multiple of sixty, and two ticks after a reset. -/
theorem frames_after_reset_at_sixty_one_hertz :
    let config : Config := { hz := 61 }
    let fresh : Machine CycledBytes (List Signal) := powerOn config ⟨[], []⟩ []
    let m₀ := fresh.next.reset
    let m₁ := m₀.next
    ((∃ c, Config.ofHz 61 false none = .ok c) ∧ ¬ ∃ c,
      Config.ofHz 1000000001 false none = .ok c) ∧
      (⌈config.roundedFrame.value⌉ = 2 ∧ config.nanosPerTick = 16393442) ∧
      Stretch m₀ [m₀, m₁] m₁.next ∧ ([m₀, m₁].map works).sum ≤ 60 := by
  intro config fresh m₀ m₁
  obtain ⟨hrates, hsafe, hwindow, -⟩ :=
    safe_rates_and_frames_of_window (ρ := CycledBytes) (δ := List Signal)
  have hfresh : fresh.Lived := .powerOn _ _ _
  have hlived : m₀.Lived := hfresh.tick.reset
  have h₁ : Stretch m₀ [m₀] m₁ := Stretch.start.tick
  have h : Stretch m₀ [m₀, m₁] m₁.next := h₁.tick
  have hframe : (config.ticksPerFrame : Int) = 2 := by decide
  refine ⟨⟨(hrates 61 false none).1.mpr (by decide), ?_⟩, ⟨?_, by decide⟩,
    h, ?_⟩
  · exact mt (hrates 1000000001 false none).1.mp (by decide)
  · exact (hsafe config).ceil_roundedFrame.trans hframe
  · have hconfig : m₀.config = config := fresh.next_config
    refine (hwindow m₀ _ _ hlived h).2 _ List.infix_rfl ?_
    rw [hconfig]
    decide

end Machine

end Chip8
