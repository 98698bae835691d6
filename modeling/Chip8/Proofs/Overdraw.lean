import Chip8.Proofs.Drawing
import Mathlib.Algebra.BigOperators.Group.List.Lemmas
import Mathlib.Algebra.BigOperators.Ring.List

/-!
# Sprites over sprites

`Draws ρ m f stamps g` says that sprites drawn one after the other take the
picture `f` to `g`, while memory holds the bytes of `m`. Each of them is drawn
by an instruction of some core that shows the picture so far; how that core
came about, and what else it holds, is left open, so a program may do between
two draws whatever it likes with its registers.

A pixel is inverted once for each sprite that inks it (`Draws.lit`). Only
whether that number is odd can be seen, and this follows from which sprites
occur an odd number of times (`countP_congr_of_count`). The order has no part
in it.
-/

namespace Chip8

/-- If all elements occur as often up to an even number, so do those with a
property. -/
theorem countP_congr_of_count {α : Type} [DecidableEq α] {xs ys : List α}
    (h : ∀ a, xs.count a % 2 = ys.count a % 2) (p : α → Bool) :
    xs.countP p % 2 = ys.countP p % 2 := by
  have heven : 2 ∣ (xs ++ ys).countP p := by
    rw [← List.sum_map_count_dedup_filter_eq_countP]
    refine List.dvd_sum fun n hn => ?_
    obtain ⟨a, -, rfl⟩ := List.mem_map.mp hn
    have ha := h a
    rw [List.count_append]
    omega
  rw [List.countP_append] at heven
  omega

theorem Stamp.inks_congr {m m' : Memory} (h : m.bytes = m'.bytes) (s : Stamp)
    (px : Column) (py : Row) : s.Inks m px py ↔ s.Inks m' px py := by
  have hbyte : m.byteAt = m'.byteAt := by
    funext a
    rw [Memory.byteAt, h, Memory.byteAt]
  simp only [Inks, Memory.byte?, hbyte]

/-- Sprites drawn one after the other take one picture to another one. -/
inductive Draws (ρ : Type) [RandomSource ρ] (m : Memory) :
    Frame → List Stamp → Frame → Prop
  | nil (f : Frame) : Draws ρ m f [] f
  | cons {c c' : Core ρ} {shiftUsesVy : Bool} {x y : Register} {n : Nibble}
      {stamps : List Stamp} {g : Frame} (hm : c.memory.bytes = m.bytes)
      (h : c.execute shiftUsesVy (.draw x y n) = .done c')
      (rest : Draws ρ m c'.screen.frame stamps g) :
      Draws ρ m c.screen.frame (c.stamp x y n :: stamps) g

namespace Core

variable {ρ : Type} [RandomSource ρ] {c c' : Core ρ} {shiftUsesVy : Bool}
  {x y : Register} {n : Nibble}

theorem drawn_of_execute (h : c.execute shiftUsesVy (.draw x y n) = .done c') :
    Drawn (c.stamp x y n) c c' := by
  cases h
  exact c.drawn_draw x y n

omit [RandomSource ρ] in
theorem Drawn.bytes {s : Stamp} (h : Drawn s c c') :
    c'.memory.bytes = c.memory.bytes := by
  rw [h.others]

omit [RandomSource ρ] in
/-- The same instruction draws the same sprite again unless the flag moves its
origin. -/
theorem Drawn.stamp_eq (h : Drawn (c.stamp x y n) c c') (hx : x ≠ flagRegister)
    (hy : y ≠ flagRegister) : c'.stamp x y n = c.stamp x y n := by
  have hindex : c'.registers.index = c.registers.index := by rw [h.others]
  rw [stamp, h.general x hx, h.general y hy, hindex, stamp]

/-- A core that is going to draw a given sprite: `V0` holds its column, and
every other register its row. -/
def aimed (random : ρ) (m : Memory) (f : Frame) (s : Stamp) : Core ρ :=
  let c : Core ρ :=
    { random
      registers := { v := Vector.replicate 16 s.y, index := s.index }
      memory := m
      screen := { frame := f } }
  c.set offsetRegister s.x

end Core

namespace Draws

variable {ρ : Type} [RandomSource ρ] {m : Memory} {f g g' : Frame}
  {stamps stamps' : List Stamp}

/-- Each pixel is inverted once for each sprite that inks it. -/
theorem lit (h : Draws ρ m f stamps g) (px : Column) (py : Row) :
    g.lit px py =
      (f.lit px py ^^
        decide ((stamps.countP fun s => s.Inks m px py) % 2 = 1)) := by
  induction h with
  | nil f => simp
  | @cons c c' shiftUsesVy x y n stamps g hm h _ ih =>
      rw [ih, (Core.drawn_of_execute h).pixel, List.countP_cons,
        Bool.xor_assoc]
      congr 1
      simp only [Stamp.inks_congr hm, decide_eq_true_eq]
      generalize stamps.countP _ = k
      by_cases hs : (c.stamp x y n).Inks m px py
      · rcases Nat.mod_two_eq_zero_or_one k with hk | hk
        · simp [hs, hk, Nat.add_mod]
        · simp [hs, hk, Nat.add_mod]
      · simp [hs]

theorem exists_draws (random : ρ) (m : Memory) (f : Frame)
    (stamps : List Stamp) :
    ∃ g, Draws ρ m f stamps g := by
  induction stamps generalizing f with
  | nil => exact ⟨f, .nil f⟩
  | cons s rest ih =>
      let c := Core.aimed random m f s
      have hbytes : c.memory.bytes = m.bytes := rfl
      have hdraw : c.execute false (.draw 0 1 s.rows) =
          .done (c.draw (c.get 0) (c.get 1) s.rows) := rfl
      obtain ⟨g, hg⟩ := ih (c.draw (c.get 0) (c.get 1) s.rows).screen.frame
      exact ⟨g, .cons hbytes hdraw hg⟩

end Draws

section Algebra

variable {ρ : Type} [RandomSource ρ]

/-- Any sprites can be drawn. Those that occur as often up to an even number
leave the same picture: so they may be drawn in any order, and two of a kind
cancel out. Drawn a second time, a sprite restores the picture, and the flag
tells whether it had lit a pixel the first time. -/
theorem draws_algebra :
    (∀ (_ : ρ) (m : Memory) (f : Frame) (stamps : List Stamp), ∃ g,
      Draws ρ m f stamps g) ∧
    (∀ {m : Memory} {f g g' : Frame} {stamps stamps' : List Stamp},
      Draws ρ m f stamps g → Draws ρ m f stamps' g' →
        (stamps.Perm stamps' → g = g') ∧
        ((∀ s, stamps.count s % 2 = stamps'.count s % 2) → g = g')) ∧
    ∀ {c c' k k' : Core ρ} {shiftUsesVy shiftUsesVy' : Bool}
      {x y x' y' : Register} {n n' : Nibble},
      c.execute shiftUsesVy (.draw x y n) = .done c' →
      k.execute shiftUsesVy' (.draw x' y' n') = .done k' →
      k.memory.bytes = c.memory.bytes → k.screen.frame = c'.screen.frame →
      k.stamp x' y' n' = c.stamp x y n →
        k'.screen.frame = c.screen.frame ∧
        k'.get flagRegister =
          if ∃ px py, (c.stamp x y n).Inks c.memory px py ∧
              c.screen.frame.lit px py = false then
            1
          else 0 := by
  refine ⟨Draws.exists_draws, fun {m f g g' stamps stamps'} h h' => ?_, ?_⟩
  · have hparity : (∀ s, stamps.count s % 2 = stamps'.count s % 2) →
        g = g' := by
      intro hcount
      refine Frame.ext_lit fun px py => ?_
      rw [h.lit, h'.lit, countP_congr_of_count hcount]
    exact ⟨fun hperm => hparity fun s => by rw [hperm.count_eq], hparity⟩
  · intro c c' k k' _ _ x y x' y' n n' h h' hm hf hs
    have hfirst := Core.drawn_of_execute h
    have hsecond := Core.drawn_of_execute h'
    rw [hs] at hsecond
    have hinks := Stamp.inks_congr hm (c.stamp x y n)
    refine ⟨Frame.ext_lit fun px py => ?_,
      hsecond.flag.trans (if_congr ?_ rfl rfl)⟩
    · rw [hsecond.pixel, hf, hfirst.pixel, Bool.xor_assoc]
      simp only [hinks, Bool.xor_self, Bool.xor_false]
    · refine exists_congr fun px => exists_congr fun py => ?_
      rw [hinks, hf, hfirst.pixel, and_comm]
      refine and_congr_right fun hink => ?_
      simp [hink]

/-- Two digits that overlap around a corner of the screen, drawn in both
orders, and one of them twice. -/
theorem overlapping_digits_cancel :
    let one : Stamp := ⟨62, 30, 5, 5⟩
    let eight : Stamp := ⟨61, 31, 5, 40⟩
    let c : Core CycledBytes := .aimed ⟨[], []⟩ Memory.powerOn Frame.dark one
    let c' := c.draw (c.get 0) (c.get 1) 5
    let c'' := c'.draw (c'.get 0) (c'.get 1) 5
    (∃ g, Draws CycledBytes Memory.powerOn Frame.dark [one, eight] g ∧
        Draws CycledBytes Memory.powerOn Frame.dark [eight, one] g) ∧
      (∃ g, Draws CycledBytes Memory.powerOn Frame.dark [one, eight, one] g ∧
        Draws CycledBytes Memory.powerOn Frame.dark [eight] g) ∧
      c'.screen.frame.lit 0 30 = true ∧ c''.screen.frame = c.screen.frame ∧
      c''.get flagRegister = 1 := by
  intro one eight c c' c''
  obtain ⟨hdrawn, hsame, htwice⟩ := draws_algebra (ρ := CycledBytes)
  have hdraws := hdrawn ⟨[], []⟩ Memory.powerOn Frame.dark
  refine ⟨?_, ?_, by decide +kernel, ?_⟩
  · obtain ⟨g, hg⟩ := hdraws [one, eight]
    obtain ⟨g', hg'⟩ := hdraws [eight, one]
    obtain rfl := (hsame hg hg').1 (.swap eight one [])
    exact ⟨g, hg, hg'⟩
  · obtain ⟨g, hg⟩ := hdraws [one, eight, one]
    obtain ⟨g', hg'⟩ := hdraws [eight]
    have hcount : ∀ s,
        [one, eight, one].count s % 2 = [eight].count s % 2 := by
      intro s
      simp only [List.count_cons, List.count_nil]
      omega
    obtain rfl := (hsame hg hg').2 hcount
    exact ⟨g, hg, hg'⟩
  · have hink : ∃ px py, (c.stamp 0 1 5).Inks c.memory px py ∧
        c.screen.frame.lit px py = false :=
          ⟨0, 30, by decide +kernel, by decide +kernel⟩
    have hagain : c'.stamp 0 1 5 = c.stamp 0 1 5 :=
      (c.drawn_draw 0 1 5).stamp_eq (by decide) (by decide)
    have hbytes : c'.memory.bytes = c.memory.bytes :=
      (c.drawn_draw 0 1 5).bytes
    have hfirst : c.execute false (.draw 0 1 5) = .done c' := rfl
    have hsecond : c'.execute false (.draw 0 1 5) = .done c'' := rfl
    obtain ⟨hframe, hflag⟩ := htwice hfirst hsecond hbytes rfl hagain
    exact ⟨hframe, hflag.trans (if_pos hink)⟩

end Algebra

end Chip8
