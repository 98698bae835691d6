import Chip8.Proofs.Course

/-!
# How frames are handed over

A tick draws if its instruction darkens the screen or draws a sprite. Drawing
marks the screen as touched, and the next frame work hands a touched screen
over and takes the mark away. So the mark says whether something was drawn that
was not shown yet (`Unshown`), and without it the screen is the frame shown
last: this is the invariant `HandOff`.

`Machine.shown` are the frames among the signals that a tick sends. What the
devices got is always the signals of all ticks in order, so a frame that was
handed over stays as it was.
-/

namespace Chip8

def Signal.frame? : Signal → Option Frame
  | .present f => some f
  | .startTone | .stopTone => none

namespace Core

variable {ρ : Type} (c : Core ρ)

theorem filterMap_frame?_toneSignals :
    c.toneSignals.filterMap Signal.frame? = [] := by
  unfold toneSignals
  split
  · split <;> rfl
  · rfl

theorem filterMap_frame?_frameSignals :
    c.frameSignals.filterMap Signal.frame? =
      if c.screen.dirty then [c.screen.frame] else [] := by
  rw [frameSignals, List.filterMap_append, filterMap_frame?_toneSignals,
    List.append_nil, showSignals]
  cases c.screen.dirty with
  | false => rfl
  | true => rfl

theorem endTick_screen (due : Bool) :
    (c.endTick due).screen = ⟨c.screen.frame, c.screen.dirty && !due⟩ := by
  cases due with
  | false => simp [endTick, countTick, mapRegisters]
  | true => simp [endTick, endFrame, countTick, mapRegisters]

end Core

namespace Machine

variable {ρ δ : Type}

def draws (m : Machine ρ δ) : Prop :=
  m.operation? = some .clear ∨ m.operation? = some .draw

instance (m : Machine ρ δ) : Decidable m.draws :=
  inferInstanceAs (Decidable (_ ∨ _))

variable [RandomSource ρ]

def shown (m : Machine ρ δ) : List Frame :=
  m.sent.filterMap Signal.frame?

/-- Something was drawn by these ticks that they did not hand over: one of them
drew, and neither it nor any after it handed a frame over. -/
def Unshown (ms : List (Machine ρ δ)) : Prop :=
  Since (fun k => k.draws ∧ k.shown = []) (fun k => k.shown = []) ms

theorem unshown_append_singleton (ms : List (Machine ρ δ)) (m : Machine ρ δ) :
    Unshown (ms ++ [m]) ↔ m.shown = [] ∧ (m.draws ∨ Unshown ms) := by
  rw [Unshown, since_append_singleton, and_or_left, and_comm]
  rfl

theorem shown_eq (m : Machine ρ δ) :
    m.shown =
      if m.divider.due ∧ m.afterInstruction.screen.dirty then
        [m.afterInstruction.screen.frame]
      else [] := by
  rw [shown, sent]
  cases m.divider.due with
  | false => simp
  | true => simpa using m.afterInstruction.filterMap_frame?_frameSignals

variable [Devices δ] {m m' : Machine ρ δ} {ms : List (Machine ρ δ)}

theorem Done.dirty_of_draws (hd : Done m m') (h : m.draws) :
    m.afterInstruction.screen.dirty = true := by
  rcases h with h | h
  · obtain ⟨i, hi, hop⟩ := Option.map_eq_some_iff.mp h
    have hexec := hd.execute_eq hi
    cases i <;> simp only [Instruction.operation, reduceCtorEq] at hop
    simp only [Core.execute, Outcome.done.injEq] at hexec
    rw [← hexec]
    rfl
  · obtain ⟨i, hi, hop⟩ := Option.map_eq_some_iff.mp h
    have hexec := hd.execute_eq hi
    cases i <;> simp only [Instruction.operation, reduceCtorEq] at hop
    next x y n =>
      obtain ⟨_, _, _, _, hdraw⟩ :=
        m.fetched.draw_eq (m.fetched.get x) (m.fetched.get y) n
      simp only [Core.execute, Outcome.done.injEq] at hexec
      rw [← hexec, hdraw]

theorem Done.screen_of_not_draws (hd : Done m m') (h : ¬ m.draws) :
    m.afterInstruction.screen = m.core.screen := by
  obtain ⟨hclear, hdraw⟩ := not_or.mp h
  rw [hd.footprint.screen hclear hdraw, fetched_screen]

theorem Done.dirty_iff (hd : Done m m') :
    m.afterInstruction.screen.dirty = true ↔
      m.draws ∨ m.core.screen.dirty = true := by
  by_cases h : m.draws
  · simp [h, hd.dirty_of_draws h]
  · simp [h, hd.screen_of_not_draws h]

/-- What the ticks of a course from power-on make of the screen. -/
structure HandOff (ms : List (Machine ρ δ)) (m : Machine ρ δ) : Prop where
  dirty : m.core.screen.dirty = true ↔ Unshown ms
  clean : m.core.screen.dirty = false →
    m.core.screen.frame = (ms.flatMap (·.shown)).getLast?.getD Frame.dark

/-- A frame is handed over exactly by the frame work of a tick that drew or
came after one that drew. -/
theorem HandOff.shown_ne_nil_iff (h : HandOff ms m) (hd : Done m m') :
    m.shown ≠ [] ↔ m.divider.due = true ∧ (m.draws ∨ Unshown ms) := by
  rw [← h.dirty, ← hd.dirty_iff, shown_eq]
  simp

theorem HandOff.tick (h : HandOff ms m) (hd : Done m m') :
    HandOff (ms ++ [m]) m' := by
  have hscreen : m'.core.screen =
      ⟨m.afterInstruction.screen.frame,
        m.afterInstruction.screen.dirty && !m.divider.due⟩ := by
    rw [hd.core, Core.endTick_screen]
  have hshown := m.shown_eq
  refine ⟨?_, ?_⟩
  · rw [hscreen, unshown_append_singleton, ← h.dirty, ← hd.dirty_iff, hshown]
    cases m.divider.due with
    | false => simp
    | true => simp
  · intro hclean
    rw [hscreen] at hclean ⊢
    rw [List.flatMap_append, List.flatMap_singleton]
    by_cases hdirty : m.afterInstruction.screen.dirty = true
    · have hdue : m.divider.due = true := by simpa [hdirty] using hclean
      simp [hshown, hdirty, hdue]
    · have hnone : m.shown = [] := by simp [hshown, hdirty]
      have hnot := mt hd.dirty_iff.mpr hdirty
      obtain ⟨hdraws, hbefore⟩ := not_or.mp hnot
      rw [hd.screen_of_not_draws hdraws, hnone, List.append_nil]
      exact h.clean (by simpa using hbefore)

theorem Course.handOff {config : Config} {random : ρ} {devices : δ}
    (h : Course (powerOn config random devices) ms m) : HandOff ms m := by
  refine h.induction_done (powerOn_inRange config random devices)
    (P := HandOff) ?_ (fun _ _ _ _ _ _ hm => ⟨hm.dirty, hm.clean⟩)
      (fun _ _ _ _ hd hm => hm.tick hd)
  exact ⟨by simpa [powerOn, Screen.powerOn, Unshown] using not_since_nil,
    fun _ => rfl⟩

/-- No drawn frame is lost and no stale one is left. An untouched screen is the
frame shown last, and a tick shows a frame, the one that its instruction left,
exactly if it does the frame work and something was drawn that was not shown
yet. The devices get the frames in this order among the other signals. -/
theorem screen_and_shown_of_course {config : Config} {random : ρ} {devices : δ}
    (h : Course (powerOn config random devices) ms m) :
    (m.core.screen.dirty = false →
        m.core.screen.frame =
          (ms.flatMap (·.shown)).getLast?.getD Frame.dark) ∧
      (∀ before k after, ms = before ++ k :: after →
        (k.shown ≠ [] ↔
          before.length % config.ticksPerFrame = 0 ∧
            (k.draws ∨ Unshown before)) ∧
        (k.shown ≠ [] → k.shown = [k.afterInstruction.screen.frame])) ∧
      m.devices = (ms.flatMap (·.sent)).foldl
        (fun d s => Devices.receive s d) devices := by
  refine ⟨h.handOff.clean, ?_,
    h.devices_eq (powerOn_inRange config random devices)⟩
  rintro before k after rfl
  obtain ⟨hk, -, k', hd, -⟩ :=
    h.split_done (powerOn_inRange config random devices)
  refine ⟨?_, ?_⟩
  · rw [hk.handOff.shown_ne_nil_iff hd, hk.due_iff]
  · intro hne
    rw [shown_eq] at hne ⊢
    exact if_pos (by simpa using hne)

/-- A sprite that is drawn between two frames is shown with the second one. -/
theorem sprite_shown_at_next_frame :
    let m₀ : Machine CycledBytes (List Signal) :=
  powerOn { hz := 120 } ⟨[], []⟩ []
    let k₀ :=
      m₀.respond (.load "sprite" 512 [0x12, 0x02, 0xD0, 0x05, 0x12, 0x04])
    let k₁ := k₀.next
    let k₂ := k₁.next
    let m := k₂.next
    Course m₀ [k₀, k₁, k₂] m ∧ k₁.draws ∧ k₁.shown = [] ∧
      k₂.shown = [k₂.afterInstruction.screen.frame] ∧
      m.core.screen.frame = k₂.afterInstruction.screen.frame ∧
      m.core.screen.frame.lit 0 0 = true := by
  intro m₀ k₀ k₁ k₂ m
  have hrun : (k₀.completes ∧ k₁.completes ∧ k₂.completes) ∧
      (k₁.draws ∧ k₁.shown = []) ∧
        m.core.screen.dirty = false ∧ m.core.screen.frame.lit 0 0 = true := by
    decide +kernel
  obtain ⟨⟨h₀, h₁, h₂⟩, ⟨hdraws, hnone⟩, hclean, hlit⟩ := hrun
  have hc : Course m₀ [k₀, k₁, k₂] m :=
    (((Course.start.outside _).next h₀).next h₁).next h₂
  have hunshown : Unshown [k₀, k₁] :=
    ⟨[k₀], k₁, [], by simp, ⟨hdraws, hnone⟩, by simp⟩
  obtain ⟨hframe, hshown, -⟩ := screen_and_shown_of_course hc
  obtain ⟨hiff, honly⟩ := hshown [k₀, k₁] k₂ [] (by simp)
  have hk₂ := honly (hiff.mpr ⟨by simp [Config.ticksPerFrame], .inr hunshown⟩)
  refine ⟨hc, hdraws, hnone, hk₂, ?_, hlit⟩
  rw [hframe hclean]
  simp [hk₂]

end Machine

end Chip8
