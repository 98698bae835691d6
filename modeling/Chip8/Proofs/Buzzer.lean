import Chip8.Device.Bell
import Chip8.Proofs.Course

/-!
# Tone and sound timer

The tone is to be on while the sound timer runs. It is switched by frame work
only: frame work that finds the timer running starts the tone, and stops it
again if the timer was about to run out. Frame work that finds the timer at
zero does nothing, so a program that sets a running timer to zero leaves the
tone on, until the timer is set again and runs out.

`CutOff` is that history. At the end of a tick with frame work a tone is on
whenever the timer runs, and it is on without the timer running exactly after
such a history (`tone_law_fails_iff`). What is asked of a tone is in
`LawfulTone`.
-/

namespace Chip8

/-- A tone that is on after it was started and off after it was stopped. -/
class LawfulTone (τ : Type) [Tone τ] : Prop where
  playing_start (t : τ) : Tone.playing (Tone.start t) = true
  playing_stop (t : τ) : Tone.playing (Tone.stop t) = false

instance : LawfulTone ToneRecord where
  playing_start t := by
    change t.start.playing = true
    unfold ToneRecord.start
    split <;> simp_all
  playing_stop t := by
    change t.stop.playing = false
    unfold ToneRecord.stop
    split <;> simp_all

instance : LawfulTone Bell where
  playing_start := Bell.playing_start
  playing_stop := Bell.playing_stop

namespace Core

variable {ρ σ τ : Type} [Surface σ] [Tone τ] (c : Core ρ) (d : σ × τ)

theorem foldl_receive_showSignals_snd :
    (c.showSignals.foldl (fun d s => Devices.receive s d) d).2 = d.2 := by
  unfold showSignals
  split <;> rfl

/-- Frame work that finds the timer running leaves the tone on, unless the
timer runs out; other frame work leaves it as it is. -/
theorem playing_foldl_receive_frameSignals [LawfulTone τ] :
    Tone.playing (c.frameSignals.foldl (fun d s => Devices.receive s d) d).2 =
      if 0 < c.registers.sound then decide (1 < c.registers.sound)
      else Tone.playing d.2 := by
  rw [frameSignals, List.foldl_append, toneSignals]
  have hshow := c.foldl_receive_showSignals_snd d
  generalize c.showSignals.foldl (fun d s => Devices.receive s d) d = e
    at hshow ⊢
  by_cases hpos : 0 < c.registers.sound
  · by_cases hone : c.registers.sound = 1
    · simp [hone, Devices.receive, LawfulTone.playing_stop]
    · have hmany : 1 < c.registers.sound := by omega
      simp [hpos, hone, hmany, Devices.receive, LawfulTone.playing_start]
  · simp [hpos, hshow]

end Core

namespace Machine

/-! ## The sound timer in a tick -/

section Timer

variable {ρ δ : Type}

def zeroesSound (m : Machine ρ δ) : Prop :=
  ∃ x, m.instruction? = some (.setSound x) ∧ m.core.registers.get x = 0

variable [RandomSource ρ]

/-- Whether the next tick does frame work that finds the sound timer above one,
and so leaves tone and timer running. -/
def leavesOn (m : Machine ρ δ) : Prop :=
  m.divider.due = true ∧ 1 < m.afterInstruction.registers.sound

/-- Whether the frame work of the next tick, if any, finds the sound timer at
zero. -/
def findsZero (m : Machine ρ δ) : Prop :=
  m.divider.due = true → m.afterInstruction.registers.sound = 0

/-- Frame work left tone and timer running, later the timer was set to zero,
and no frame work since found it running. -/
def CutOff (ms : List (Machine ρ δ)) : Prop :=
  ∃ before k after, ms = before ++ k :: after ∧ k.leavesOn ∧
    (∃ j ∈ after, j.zeroesSound) ∧ ∀ j ∈ after, j.findsZero

variable {m₀ m m' k : Machine ρ δ} {ms : List (Machine ρ δ)}

theorem CutOff.since (h : CutOff ms) : Since leavesOn findsZero ms := by
  obtain ⟨before, k, after, hms, hk, -, hafter⟩ := h
  exact ⟨before, k, after, hms, hk, hafter⟩

theorem CutOff.findsZero (h : CutOff (ms ++ [k])) : k.findsZero := by
  obtain ⟨before, i, after, hms, -, ⟨j, hj, -⟩, hafter⟩ := h
  rcases eq_of_append_cons_eq_concat hms.symm
    with ⟨-, -, rfl⟩ | ⟨after, rfl, -⟩
  · simp at hj
  · exact hafter k (by simp)

variable [Devices δ]

theorem Done.sound_eq (hd : Done m m') :
    m'.core.registers.sound =
      if m.divider.due then countDown m.afterInstruction.registers.sound
      else m.afterInstruction.registers.sound := by
  rw [hd.core]
  cases m.divider.due with
  | false => rfl
  | true => rfl

theorem Done.sound_pos (hd : Done m m') (hpos : 0 < m.core.registers.sound)
    (hzero : ¬ m.zeroesSound) : 0 < m.afterInstruction.registers.sound := by
  by_cases hop : m.operation? = some .setSound
  · obtain ⟨i, hi, hset⟩ := Option.map_eq_some_iff.mp hop
    have hexec := hd.execute_eq hi
    cases i <;> simp only [Instruction.operation, reduceCtorEq] at hset
    next x =>
      simp only [Core.execute, Outcome.done.injEq] at hexec
      have hne : m.core.registers.get x ≠ 0 := fun h => hzero ⟨x, hi, h⟩
      have hnat : (m.core.registers.get x).toNat ≠ 0 :=
        fun h => hne (UInt8.toNat_inj.mp h)
      rw [← hexec]
      simp only [Core.mapRegisters, fetched_get]
      omega
  · rwa [hd.footprint.sound hop, fetched_sound]

/-- A timer that runs, is never set to zero and is at zero whenever frame work
looks at it, goes on running: no frame work looks at it. -/
theorem Course.sound_pos (h : Course m₀ ms m) (h₀ : m₀.InRange)
    (hpos : 0 < m₀.core.registers.sound) (hzero : ∀ k ∈ ms, ¬ k.zeroesSound)
    (hfinds : ∀ k ∈ ms, k.findsZero) : 0 < m.core.registers.sound := by
  revert hzero hfinds
  refine h.induction_done h₀ (P := fun ms m => (∀ k ∈ ms, ¬ k.zeroesSound) →
    (∀ k ∈ ms, k.findsZero) → 0 < m.core.registers.sound) (fun _ _ => hpos)
    (fun _ _ _ _ _ _ hm => hm) ?_
  intro ms m m' _ hd hm hzero hfinds
  have hbefore := hm (fun k hk => hzero k (List.mem_append_left [m] hk))
    (fun k hk => hfinds k (List.mem_append_left [m] hk))
  have hafter := hd.sound_pos hbefore (hzero m (by simp))
  rw [hd.sound_eq]
  cases hdue : m.divider.due with
  | false => exact hafter
  | true =>
      have := hfinds m (by simp) hdue
      omega

/-- If frame work left tone and timer running and none since found the timer
running, a timer that is at zero now was cut off. -/
theorem Course.cutOff (h : Course m₀ ms m) (h₀ : m₀.InRange)
    (hzero : m.core.registers.sound = 0)
    (hsince : Since leavesOn findsZero ms) : CutOff ms := by
  obtain ⟨before, k, after, rfl, hk, hafter⟩ := hsince
  refine ⟨before, k, after, rfl, hk, ?_, hafter⟩
  obtain ⟨-, hin, k', hd, hrest⟩ := h.split_done h₀
  have hpos : 0 < k'.core.registers.sound := by
    obtain ⟨hdue, hmany⟩ := hk
    rw [hd.sound_eq, hdue, if_pos rfl, countDown]
    split <;> omega
  apply Classical.byContradiction
  intro hnone
  have hkept : ∀ j ∈ after, ¬ j.zeroesSound := fun j hj hz => hnone ⟨j, hj, hz⟩
  have := hrest.sound_pos (hd.inRange hin) hpos hkept hafter
  omega

end Timer

/-! ## The tone in a course -/

variable {ρ σ τ : Type} [RandomSource ρ] [Surface σ] [Tone τ] [LawfulTone τ]
  {m₀ m m' : Machine ρ (σ × τ)} {ms : List (Machine ρ (σ × τ))}

def sounds (m : Machine ρ (σ × τ)) : Bool :=
  Tone.playing m.devices.2

theorem Done.sounds_iff (h : m.InRange) (hd : Done m m') :
    m'.sounds = true ↔ m.leavesOn ∨ (m.findsZero ∧ m.sounds = true) := by
  have hrange := (hd.afterInstruction_inRange h).sound
  rw [sounds, hd.devices, sent, leavesOn, findsZero]
  cases hdue : m.divider.due with
  | false => simp [sounds]
  | true =>
      rw [if_pos rfl, Core.playing_foldl_receive_frameSignals]
      by_cases hpos : 0 < m.afterInstruction.registers.sound
      · have hne : m.afterInstruction.registers.sound ≠ 0 := by omega
        simp [hpos, hne]
      · have hzero : m.afterInstruction.registers.sound = 0 := by omega
        simp [hzero, sounds]

/-- The tone is on if frame work left it on and no frame work since found the
timer running. -/
theorem Course.sounds_iff (h : Course m₀ ms m) (h₀ : m₀.InRange)
    (hoff : m₀.sounds = false) :
    m.sounds = true ↔ Since leavesOn findsZero ms := by
  refine h.induction_done h₀
    (P := fun ms m => m.sounds = true ↔ Since leavesOn findsZero ms)
    ?_ (fun _ _ _ _ _ _ hm => hm) ?_
  · simpa [hoff] using not_since_nil
  · intro ms m m' hin hd hm
    rw [since_append_singleton, ← hm]
    exact hd.sounds_iff hin

/-- At the end of a tick with frame work the tone is on if the sound timer
runs. That it is on although the timer does not run happens exactly if the
program cut the timer off by setting it to zero. -/
theorem tone_law_fails_iff {config : Config} {random : ρ} {surface : σ}
    {tone : τ} {k : Machine ρ (σ × τ)} (hoff : Tone.playing tone = false)
    (h : Course (powerOn config random (surface, tone)) (ms ++ [k]) m)
    (hdue : k.divider.due = true) :
    (0 < m.core.registers.sound → m.sounds = true) ∧
      (¬ (m.sounds = true ↔ 0 < m.core.registers.sound) ↔
        CutOff (ms ++ [k])) := by
  have h₀ := powerOn_inRange config random (surface, tone)
  have hsounds := h.sounds_iff h₀ hoff
  obtain ⟨-, hin, k', hd, hidle⟩ := h.split_done h₀
  have hs := (hd.afterInstruction_inRange hin).sound
  have hsound : m.core.registers.sound =
      countDown k.afterInstruction.registers.sound := by
    obtain ⟨_, _, _, _, rfl⟩ := hidle.idle
    change k'.core.registers.sound = _
    rw [hd.sound_eq, hdue, if_pos rfl]
  have hon : 0 < m.core.registers.sound → m.sounds = true := by
    intro hpos
    have hmany : 1 < k.afterInstruction.registers.sound := by
      rw [hsound, countDown] at hpos
      split at hpos <;> omega
    rw [hsounds, since_append_singleton]
    exact .inl ⟨hdue, hmany⟩
  refine ⟨hon, ?_, ?_⟩
  · intro hfails
    have hnot : ¬ 0 < m.core.registers.sound :=
      fun hpos => hfails ⟨fun _ => hpos, hon⟩
    have hplays : m.sounds = true := by
      apply Classical.byContradiction
      intro hquiet
      exact hfails ⟨fun hp => absurd hp hquiet, fun hp => absurd hp hnot⟩
    have hzero : m.core.registers.sound = 0 := by
      have := (countDown_range hs).1
      omega
    exact h.cutOff h₀ hzero (hsounds.mp hplays)
  · intro hcut hlaw
    have hzero := hcut.findsZero hdue
    have hpos := hlaw.mp (hsounds.mpr hcut.since)
    rw [hsound, hzero, countDown] at hpos
    simp at hpos

/-- The tone stays on when a program sets the running timer to zero. -/
theorem tone_on_at_zero :
    let m₀ : Machine CycledBytes (FrameRecord × ToneRecord) :=
      powerOn { hz := 60 } ⟨[], []⟩ ({}, {})
    let k₀ :=
      m₀.respond
        (.load "cut" 512 [0x61, 0x05, 0xF1, 0x18, 0xF0, 0x18, 0x12, 0x06])
    let k₁ := k₀.next
    let k₂ := k₁.next
    let m := k₂.next
    Course m₀ [k₀, k₁, k₂] m ∧ k₂.divider.due = true ∧
      m.core.registers.sound = 0 ∧ m.sounds = true := by
  intro m₀ k₀ k₁ k₂ m
  have hc : k₀.completes ∧ k₁.completes ∧ k₂.completes := by decide +kernel
  exact ⟨(((Course.start.outside _).next hc.1).next hc.2.1).next hc.2.2,
    by decide +kernel⟩

/-- With two ticks to a frame the timer may be cut off between two frames. -/
theorem tone_law_fails_between_frames :
    let m₀ : Machine CycledBytes (FrameRecord × Bell) :=
  powerOn { hz := 120 } ⟨[], []⟩ ({}, {})
    let k₀ := m₀.respond (.load "cut" 512
      [0x61, 0x05, 0xF1, 0x18, 0x12, 0x06, 0xF0, 0x18, 0x12, 0x08])
    let k₁ := k₀.next
    let k₂ := k₁.next
    let k₃ := k₂.next
    let k₄ := k₃.next
    let m := k₄.next
    Course m₀ [k₀, k₁, k₂, k₃, k₄] m ∧ Tone.playing m₀.devices.2 = false ∧
      k₄.divider.due = true ∧ CutOff [k₀, k₁, k₂, k₃, k₄] ∧
      ¬ (m.sounds = true ↔ 0 < m.core.registers.sound) := by
  intro m₀ k₀ k₁ k₂ k₃ k₄ m
  have hcomplete : k₀.completes ∧ k₁.completes ∧ k₂.completes ∧ k₃.completes ∧
      k₄.completes ∧ k₄.divider.due = true := by
    decide +kernel
  obtain ⟨h₀, h₁, h₂, h₃, h₄, hdue⟩ := hcomplete
  have hc : Course m₀ ([k₀, k₁, k₂, k₃] ++ [k₄]) m :=
    (((((Course.start.outside _).next h₀).next h₁).next h₂).next h₃).next h₄
  have hhistory :
      (k₂.divider.due = true ∧ 1 < k₂.afterInstruction.registers.sound) ∧
      (k₃.instruction? = some (.setSound 0) ∧ k₃.core.registers.get 0 = 0) ∧
      (k₃.divider.due = true → k₃.afterInstruction.registers.sound = 0) ∧
      k₄.afterInstruction.registers.sound = 0 := by
    decide +kernel
  obtain ⟨hleaves, hzeroes, hfinds, hzero⟩ := hhistory
  have hcut : CutOff ([k₀, k₁, k₂, k₃] ++ [k₄]) :=
    ⟨[k₀, k₁], k₂, [k₃, k₄], by simp, hleaves, ⟨k₃, by simp, 0, hzeroes⟩, by
      intro j hj
      rcases List.mem_cons.mp hj with rfl | hj
      · exact hfinds
      · obtain rfl := List.mem_singleton.mp hj
        exact fun _ => hzero⟩
  exact ⟨hc, rfl, hdue, hcut, (tone_law_fails_iff rfl hc hdue).2.mpr hcut⟩

end Machine

end Chip8
