import Chip8.Proofs.Course
import Mathlib.Algebra.Order.Floor.Div

/-!
# Sixty frames a second

A course that starts with a fresh frame divider does the frame work in its
first tick and in every `ticksPerFrame`-th one after it, once each time. The
timers count down in these ticks and in no others. So the value of a timer is
known from the tick that loaded it last: take the number of frame ticks since
away, the tick of the load included, and stop at zero (`Course.value_eq`). What
is switched follows from it: the tone is started by each frame tick that finds
the sound timer running, and stopped by the one that finds it at one.

Ticks are numbered from 1; the load at tick 0 is what a timer holds at the
start. The two timers differ in nothing but their names until it comes to the
tone (`Timer`).
-/

namespace Chip8

inductive Timer where
  | delay
  | sound

namespace Timer

def value (t : Timer) (r : Registers) : Int :=
  match t with
  | delay => r.delay
  | sound => r.sound

def load (t : Timer) (x : Register) : Instruction :=
  match t with
  | delay => .setDelay x
  | sound => .setSound x

def operation (t : Timer) : Operation :=
  match t with
  | delay => .setDelay
  | sound => .setSound

theorem operation_eq_iff (t : Timer) {i : Instruction} :
    i.operation = t.operation ↔ ∃ x, i = t.load x := by
  cases t <;> cases i <;> simp [Instruction.operation, operation, load]

variable {ρ δ : Type}

/-- At a tick a timer got a value: an instruction loaded it, or, at tick 0, the
course started with it. -/
def LoadedAt (t : Timer) (m₀ : Machine ρ δ) (ms : List (Machine ρ δ)) :
    Nat → Int → Prop
  | 0, v => t.value m₀.core.registers = v
  | i + 1, v => ∃ k x, ms[i]? = some k ∧ k.instruction? = some (t.load x) ∧
      ((k.core.registers.get x).toNat : Int) = v

def KeptAfter (t : Timer) (ms : List (Machine ρ δ)) (i : Nat) : Prop :=
  ∀ n k, i ≤ n → ms[n]? = some k → ∀ x, k.instruction? ≠ some (t.load x)

end Timer

/-! ## Counting frame ticks -/

/-- The number of frame ticks among the ticks from `i` to `j`, for a period. -/
def frameTicks (period i j : Nat) : Nat :=
  (List.range' i (j + 1 - i)).countP fun n => (n - 1) % period = 0

theorem frameTicks_of_lt (period : Nat) {i j : Nat} (h : j < i) :
    frameTicks period i j = 0 := by
  rw [frameTicks, Nat.sub_eq_zero_of_le h]
  rfl

theorem frameTicks_succ (period : Nat) {i j : Nat} (h : i ≤ j + 1) :
    frameTicks period i (j + 1) =
      frameTicks period i j + if j % period = 0 then 1 else 0 := by
  have hlength : j + 1 + 1 - i = (j + 1 - i) + 1 := by omega
  have hlast : i + 1 * (j + 1 - i) - 1 = j := by omega
  rw [frameTicks, frameTicks, hlength, List.range'_concat, List.countP_append,
    List.countP_singleton, hlast]
  simp

theorem countDown_of_nonneg {v : Int} (h : 0 ≤ v) :
    countDown v = max 0 (v - 1) := by
  unfold countDown
  split <;> omega

theorem countDown_max (z : Int) : countDown (max 0 z) = max 0 (z - 1) := by
  rw [countDown_of_nonneg (Int.le_max_left 0 z)]
  omega

namespace FrameDivider

/-- From the start on the frames are the ticks divided by the period, rounded
up. -/
theorem frames_start_advance (period : Nat) (h : 0 < period) (n : Nat) :
    ((start period h).advance n).frames = (n ⌈/⌉ period : Nat) := by
  have hpos : (period : Int) - 1 + n = ((n + period - 1 : Nat) : Int) := by
    omega
  rw [Nat.ceilDiv_eq_add_pred_div]
  simp only [advance, start, elapsed, hpos]
  omega

end FrameDivider

/-! ## The signals of a frame tick -/

namespace Core

variable {ρ : Type} (c : Core ρ)

theorem count_frameSignals {s : Signal} (hs : ∀ f, s ≠ .present f) :
    c.frameSignals.count s = c.toneSignals.count s := by
  have hshow : c.showSignals.count s = 0 := by
    rw [List.count_eq_zero, showSignals]
    split
    · simpa using hs c.screen.frame
    · exact List.not_mem_nil
  rw [frameSignals, List.count_append, hshow, Nat.zero_add]

theorem count_startTone_frameSignals :
    c.frameSignals.count .startTone =
      if 0 < c.registers.sound then 1 else 0 := by
  rw [count_frameSignals c (by simp), toneSignals]
  split
  · split <;> simp
  · rfl

theorem count_stopTone_frameSignals :
    c.frameSignals.count .stopTone =
      if c.registers.sound = 1 then 1 else 0 := by
  rw [count_frameSignals c (by simp), toneSignals]
  split
  · split <;> simp
  next hstopped =>
    have hne : c.registers.sound ≠ 1 := by omega
    simp [hne]

end Core

namespace Machine

variable {ρ δ : Type}

/-- A machine as it is at power-on or after a reset, but for the timers, which
may have been set. -/
structure AtStart (m₀ : Machine ρ δ) : Prop where
  divider : m₀.divider =
    FrameDivider.start m₀.config.ticksPerFrame m₀.config.ticksPerFrame_pos
  timer (t : Timer) : 0 ≤ t.value m₀.core.registers

theorem powerOn_atStart (config : Config) (random : ρ) (devices : δ) :
    (powerOn config random devices).AtStart :=
  ⟨rfl, fun t => by cases t <;> exact Int.le_refl 0⟩

/-- The machine with a tick counted, before the frame work. -/
def counted (m : Machine ρ δ) : Machine ρ δ :=
  { m with divider := m.divider.advance 1 }.mapRegisters
    fun r => { r with cycles := r.cycles + 1 }

theorem finishTick_eq_frameWorks [Devices δ] (m : Machine ρ δ) :
    m.finishTick = frameWorks m.framesDue m.counted := rfl

theorem framesDue_eq {m : Machine ρ δ} (h : m.divider.InRange) :
    m.framesDue = if m.divider.due then 1 else 0 := by
  rw [framesDue, FrameDivider.elapsed_one h]
  split <;> rfl

variable {m₀ m m' : Machine ρ δ} {ms : List (Machine ρ δ)}

theorem AtStart.inRange (h : m₀.AtStart) : m₀.divider.InRange := by
  rw [h.divider]
  exact FrameDivider.start_inRange _ _

variable [RandomSource ρ] [Devices δ]

theorem Reachable.reset_atStart (h : m.Reachable) : m.reset.AtStart := by
  refine ⟨?_, fun t => by cases t <;> exact Int.le_refl 0⟩
  obtain ⟨config, random, devices, ms, hc⟩ := h
  have hin := (powerOn_inRange config random devices).divider
  have hperiod : m.divider.period = m.config.ticksPerFrame := by
    rw [hc.divider_eq hin, hc.config_eq hin]
    rfl
  simp only [reset, FrameDivider.reset, hperiod]

/-! ## A timer in a tick -/

theorem Done.value_eq (hd : Done m m') (t : Timer) :
    t.value m'.core.registers =
      if m.divider.due then countDown (t.value m.afterInstruction.registers)
      else t.value m.afterInstruction.registers := by
  rw [hd.core]
  cases m.divider.due with
  | false => cases t <;> rfl
  | true => cases t <;> rfl

theorem Done.value_of_load (hd : Done m m') {t : Timer} {x : Register}
    (hi : m.instruction? = some (t.load x)) :
    t.value m.afterInstruction.registers = (m.core.registers.get x).toNat := by
  have hexec := hd.execute_eq hi
  cases t <;>
  · simp only [Timer.load, Core.execute, Outcome.done.injEq] at hexec
    rw [← hexec]
    simp [Timer.value, Core.mapRegisters]

theorem Done.value_of_not_load (hd : Done m m') {t : Timer}
    (hi : ∀ x, m.instruction? ≠ some (t.load x)) :
    t.value m.afterInstruction.registers = t.value m.core.registers := by
  have hop : m.operation? ≠ some t.operation := by
    intro hop
    obtain ⟨i, hi', hset⟩ := Option.map_eq_some_iff.mp hop
    obtain ⟨x, rfl⟩ := t.operation_eq_iff.mp hset
    exact hi x hi'
  obtain ⟨_, _, hf⟩ := m.fetched_eq
  have hfetched : t.value m.fetched.registers = t.value m.core.registers := by
    rw [hf]
    cases t <;> rfl
  rw [← hfetched]
  cases t with
  | delay => exact hd.footprint.delay hop
  | sound => exact hd.footprint.sound hop

/-! ## A timer in a course -/

omit [RandomSource ρ] [Devices δ] in
theorem loadedAt_append {t : Timer} {i : Nat} {v : Int}
    {ms' : List (Machine ρ δ)} (hi : i ≤ ms.length) :
    t.LoadedAt m₀ (ms ++ ms') i v ↔ t.LoadedAt m₀ ms i v := by
  cases i with
  | zero => rfl
  | succ i => simp only [Timer.LoadedAt, List.getElem?_append_left hi]

omit [RandomSource ρ] [Devices δ] in
theorem keptAfter_append_cons {t : Timer} {i : Nat} {ms' : List (Machine ρ δ)}
    (hi : i ≤ ms.length) (h : t.KeptAfter (ms ++ m :: ms') i) :
    t.KeptAfter ms i ∧ ∀ x, m.instruction? ≠ some (t.load x) := by
  refine ⟨fun n k hn hk => h n k hn ?_, h ms.length m hi (by simp)⟩
  have hlt : n < ms.length := (List.getElem?_eq_some_iff.mp hk).1
  rw [List.getElem?_append_left hlt, hk]

/-- What a timer holds when a tick is about to do its frame work, if any: what
the tick loaded, or else what the timer held before. -/
theorem Done.value_afterInstruction {after : List (Machine ρ δ)}
    (hd : Done m m') {t : Timer} {period i : Nat} {v : Int}
    (hi : i ≤ ms.length + 1) (hload : t.LoadedAt m₀ (ms ++ m :: after) i v)
    (hkept : t.KeptAfter (ms ++ m :: after) i)
    (hbefore : i ≤ ms.length → t.LoadedAt m₀ ms i v → t.KeptAfter ms i →
      t.value m.core.registers =
        max 0 (v - frameTicks period (max i 1) ms.length)) :
    t.value m.afterInstruction.registers =
      max 0 (v - frameTicks period (max i 1) ms.length) := by
  rcases Nat.lt_or_ge ms.length i with hlast | hearlier
  · -- the timer is loaded by the tick itself
    obtain rfl : i = ms.length + 1 := by omega
    obtain ⟨j, x, hj, hjload, rfl⟩ := hload
    obtain rfl : m = j := by simpa using hj
    rw [hd.value_of_load hjload, Nat.max_eq_left (by omega),
      frameTicks_of_lt _ (Nat.lt_succ_self _)]
    omega
  · obtain ⟨hkept, hnot⟩ := keptAfter_append_cons hearlier hkept
    rw [hd.value_of_not_load hnot]
    exact hbefore hearlier ((loadedAt_append hearlier).mp hload) hkept

/-- What a timer holds at the end of a course: the value loaded last, less the
frame ticks since, but not less than zero. -/
theorem Course.value_eq (h : Course m₀ ms m) (h₀ : m₀.AtStart) {t : Timer}
    {i : Nat} {v : Int} (hi : i ≤ ms.length) (hload : t.LoadedAt m₀ ms i v)
    (hkept : t.KeptAfter ms i) :
    t.value m.core.registers =
      max 0 (v - frameTicks m₀.config.ticksPerFrame (max i 1) ms.length) := by
  induction h with
  | start =>
      obtain rfl : i = 0 := by simpa using hi
      obtain rfl : t.value m₀.core.registers = v := hload
      have := h₀.timer t
      rw [frameTicks_of_lt _ (by simp)]
      simpa using this
  | outside s _ ih =>
      obtain ⟨_, _, _, _, hs⟩ := respond_eq _ s
      rw [hs]
      exact ih hi hload hkept
  | @tick ms k m' _ h hstep ih =>
      have hd := done_of_step (h.divider_inRange h₀.inRange).1 hstep
      have hdue := h.due_iff_of_start h₀.divider
      have hfinal := hd.value_eq t
      rw [List.length_append, List.length_singleton] at hi ⊢
      rw [hd.value_afterInstruction hi hload hkept ih] at hfinal
      rw [frameTicks_succ _ (by omega), hfinal]
      by_cases hframe : ms.length % m₀.config.ticksPerFrame = 0
      · rw [if_pos (hdue.mpr hframe), if_pos hframe, countDown_max]
        congr 1
        omega
      · rw [if_neg (mt hdue.mp hframe), if_neg hframe, Nat.add_zero]

/-- A tick of a course from the start is completed by doing the frame work
once, if its number, counted from zero, is a multiple of the period, and by not
doing it otherwise. -/
theorem Course.step_eq_frameWorks {k : Machine ρ δ}
    {before after : List (Machine ρ δ)}
    (h : Course m₀ (before ++ k :: after) m) (h₀ : m₀.AtStart) :
    k.step = .done k.instruction?
      (frameWorks
        (if before.length % m₀.config.ticksPerFrame = 0 then 1 else 0)
        (k.withOutcome k.afterInstruction).counted) := by
  obtain ⟨hk, i?, k', hstep, -⟩ := h.split
  obtain ⟨-, rfl, rfl⟩ := step_eq_done_iff.mp hstep
  have hin : (k.withOutcome k.afterInstruction).divider.InRange := by
    rw [withOutcome_divider]
    exact (hk.divider_inRange h₀.inRange).1
  rw [hstep, finishTick_eq_frameWorks, framesDue_eq hin, withOutcome_divider]
  simp only [hk.due_iff_of_start h₀.divider]

theorem Course.sound_afterInstruction {k : Machine ρ δ}
    {before after : List (Machine ρ δ)}
    (h : Course m₀ (before ++ k :: after) m) (h₀ : m₀.AtStart) {i : Nat}
    {v : Int} (hi : i ≤ before.length + 1)
    (hload : Timer.sound.LoadedAt m₀ (before ++ k :: after) i v)
    (hkept : Timer.sound.KeptAfter (before ++ k :: after) i) :
    k.afterInstruction.registers.sound =
      max 0 (v - frameTicks m₀.config.ticksPerFrame
        (max i 1) before.length) := by
  obtain ⟨hk, k', hd, -⟩ := h.split_divider h₀.inRange
  exact hd.value_afterInstruction hi hload hkept (hk.value_eq h₀)

theorem Course.sent_eq {k : Machine ρ δ} {before after : List (Machine ρ δ)}
    (h : Course m₀ (before ++ k :: after) m) (h₀ : m₀.AtStart) :
    k.sent =
      if before.length % m₀.config.ticksPerFrame = 0 then
        k.afterInstruction.frameSignals
      else [] := by
  obtain ⟨hk, -⟩ := h.split
  simp only [sent, hk.due_iff_of_start h₀.divider]

/-- Sixty frames a second: when the frame work is done, how many frames there
were, what the timers hold, and when the tone is started and stopped. The last
load of a timer was at tick `i`. -/
theorem frames_and_timers_of_course (h₀ : m₀.AtStart) (h : Course m₀ ms m) :
    (∀ before k after, ms = before ++ k :: after →
      k.step = .done k.instruction?
        (frameWorks
          (if before.length % m₀.config.ticksPerFrame = 0 then 1 else 0)
          (k.withOutcome k.afterInstruction).counted)) ∧
      m.divider.frames = (ms.length ⌈/⌉ m₀.config.ticksPerFrame : Nat) ∧
      m.devices =
        (ms.flatMap (·.sent)).foldl
          (fun d s => Devices.receive s d) m₀.devices ∧
      ∀ (t : Timer) (i : Nat) (v : Int), i ≤ ms.length → t.LoadedAt m₀ ms i v →
        t.KeptAfter ms i →
        t.value m.core.registers =
            max 0 (v - frameTicks m₀.config.ticksPerFrame
              (max i 1) ms.length) ∧
          (t = .sound → ∀ before k after, ms = before ++ k :: after →
            i ≤ before.length + 1 →
            k.afterInstruction.registers.sound =
                max 0 (v - frameTicks m₀.config.ticksPerFrame
                  (max i 1) before.length) ∧
              k.sent.count .startTone =
                (if before.length % m₀.config.ticksPerFrame = 0 ∧
                  k.afterInstruction.registers.sound ≠ 0 then 1 else 0) ∧
              k.sent.count .stopTone =
                (if before.length % m₀.config.ticksPerFrame = 0 ∧
                  k.afterInstruction.registers.sound = 1 then 1 else 0)) := by
  refine ⟨?_, ?_, h.devices_eq_foldl h₀.inRange, ?_⟩
  · rintro before k after rfl
    exact h.step_eq_frameWorks h₀
  · rw [h.divider_eq h₀.inRange, h₀.divider]
    exact FrameDivider.frames_start_advance _ _ _
  · intro t i v hi hload hkept
    refine ⟨h.value_eq h₀ hi hload hkept, ?_⟩
    rintro rfl before k after rfl hik
    have hsound := h.sound_afterInstruction h₀ hik hload hkept
    have hpos : 0 < k.afterInstruction.registers.sound ↔
        k.afterInstruction.registers.sound ≠ 0 := by omega
    refine ⟨hsound, ?_, ?_⟩
    · rw [h.sent_eq h₀]
      by_cases hframe : before.length % m₀.config.ticksPerFrame = 0
      · simp [hframe, Core.count_startTone_frameSignals, hpos]
      · simp [hframe]
    · rw [h.sent_eq h₀]
      by_cases hframe : before.length % m₀.config.ticksPerFrame = 0
      · simp [hframe, Core.count_stopTone_frameSignals]
      · simp [hframe]

/-- A sound timer that is loaded between two frames, after a reset. -/
theorem sound_after_reset_and_six_ticks :
    let fresh : Machine CycledBytes (List Signal) :=
  powerOn { hz := 120 } ⟨[], []⟩ []
    let loaded :=
      fresh.respond (.load "sound" 512 [0x61, 0x03, 0xF1, 0x18, 0x12, 0x04])
    let k₀ := loaded.next.reset
    let k₁ := k₀.next
    let k₂ := k₁.next
    let k₃ := k₂.next
    let k₄ := k₃.next
    let k₅ := k₄.next
    let m := k₅.next
    Course k₀ [k₀, k₁, k₂, k₃, k₄, k₅] m ∧ m.divider.frames = 3 ∧
      m.core.registers.sound = 1 ∧ k₄.sent.count .startTone = 1 ∧
      k₄.sent.count .stopTone = 0 := by
  intro fresh loaded k₀ k₁ k₂ k₃ k₄ k₅ m
  have hrun : loaded.completes ∧
      (k₀.completes ∧ k₁.completes ∧ k₂.completes ∧ k₃.completes ∧
        k₄.completes ∧ k₅.completes) ∧ k₀.config.ticksPerFrame = 2 ∧
        (k₁.instruction? = some (.setSound 1) ∧
          ((k₁.core.registers.get 1).toNat : Int) = 3) ∧
        ∀ k ∈ [k₂, k₃, k₄, k₅], k.operation? = some .jump := by
    decide +kernel
  obtain ⟨hcomplete, ⟨h₀, h₁, h₂, h₃, h₄, h₅⟩, hperiod, hload, hjumps⟩ := hrun
  have hreach : loaded.next.Reachable :=
    ⟨_, _, _, _, (Course.start.outside _).next hcomplete⟩
  have hstart : k₀.AtStart := hreach.reset_atStart
  have hc : Course k₀ [k₀, k₁, k₂, k₃, k₄, k₅] m :=
    (((((Course.start.next h₀).next h₁).next h₂).next h₃).next h₄).next h₅
  have hkept : Timer.sound.KeptAfter [k₀, k₁, k₂, k₃, k₄, k₅] 2 := by
    intro n k hn hk x hx
    obtain ⟨n, rfl⟩ := Nat.exists_eq_add_of_le' hn
    have hlater : [k₂, k₃, k₄, k₅][n]? = some k := by simpa using hk
    have hjump := hjumps k (List.mem_of_getElem? hlater)
    simp [operation?, hx, Timer.load, Instruction.operation] at hjump
  obtain ⟨-, hframes, -, htimer⟩ := frames_and_timers_of_course hstart hc
  obtain ⟨hsound, htone⟩ :=
    htimer .sound 2 3 (by decide) ⟨k₁, 1, rfl, hload⟩ hkept
  obtain ⟨hpast, hon, hoff⟩ :=
    htone rfl [k₀, k₁, k₂, k₃] k₄ [k₅] rfl (by decide)
  rw [hperiod] at hframes hsound hpast hon hoff
  have hpast : k₄.afterInstruction.registers.sound = 2 :=
    hpast.trans (by decide)
  refine ⟨hc, hframes.trans (by decide), hsound.trans (by decide), ?_, ?_⟩
  · simpa [hpast] using hon
  · simpa [hpast] using hoff

end Machine

end Chip8
