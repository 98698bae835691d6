import Chip8.Proofs.Tick

/-!
# Courses of a machine

A course is what may become of a machine: completed ticks in any number, and
between them anything from outside, in any order. `Stimulus` lists what can
come from outside: programs are loaded, keys go down and up, and it is settled
which key events will arrive while a later tick waits for a key.

`Course m₀ ms m` says that some course takes `m₀` to `m`; `ms` are the machines
at the start of its ticks, in order. That is all there is to know of a tick,
since the instruction, the core after it and the signals sent are functions of
the machine that the tick starts from. A machine is `Reachable` if a course
takes a machine at power-on there.
-/

namespace Chip8

inductive Stimulus where
  | load (name : String) (base : Int) (data : List UInt8)
  | press (key : Int)
  | release (key : Int)
  /-- More key events are going to arrive while the machine waits for a key, a
  batch for each time it yields. -/
  | expect (batches : List (List KeyEvent))

namespace Machine

variable {ρ δ : Type}

def respond (m : Machine ρ δ) : Stimulus → Machine ρ δ
  | .load name base data => m.load name base data
  | .press key => m.mapCore fun c => { c with keypad := c.keypad.press key }
  | .release key =>
    m.mapCore fun c => { c with keypad := c.keypad.release key }
  | .expect batches =>
    m.mapCore fun c => { c with arrivals := c.arrivals ++ batches }

/-- From outside only memory and keys can be changed. -/
theorem respond_eq (m : Machine ρ δ) (s : Stimulus) :
    ∃ memory keypad arrivals events, m.respond s =
      { m with core := { m.core with memory, keypad, arrivals, events } } := by
  cases s with
  | load name base data =>
      obtain ⟨memory, events, h⟩ := m.core.writeBytes_eq base data
      exact ⟨memory, m.core.keypad, m.core.arrivals, _, by
        simp only [respond, load, mapCore, h, Core.report]; rfl⟩
  | press key => exact ⟨m.core.memory, _, m.core.arrivals, m.core.events, rfl⟩
  | release key =>
    exact ⟨m.core.memory, _, m.core.arrivals, m.core.events, rfl⟩
  | expect batches =>
    exact ⟨m.core.memory, m.core.keypad, _, m.core.events, rfl⟩

theorem respond_inRange {m : Machine ρ δ} (h : m.InRange) (s : Stimulus) :
    (m.respond s).InRange := by
  obtain ⟨_, _, _, _, hs⟩ := m.respond_eq s
  rw [hs]
  exact ⟨h.registers, h.divider⟩

variable [RandomSource ρ] [Devices δ]

/-- Some course takes the first machine to the last one; the list holds the
machines at the start of its ticks. -/
inductive Course (m₀ : Machine ρ δ) : List (Machine ρ δ) → Machine ρ δ → Prop
  | start : Course m₀ [] m₀
  | outside {ms m} (s : Stimulus) : Course m₀ ms m → Course m₀ ms (m.respond s)
  | tick {ms m m' i?} : Course m₀ ms m → m.step = .done i? m' →
    Course m₀ (ms ++ [m]) m'

/-- The machine after the next tick, whether it was completed or not. -/
def next (m : Machine ρ δ) : Machine ρ δ :=
  match m.step with
  | .done _ m' | .stalled m' | .unfit m' => m'

def completes (m : Machine ρ δ) : Bool :=
  match m.step with
  | .done _ _ => true
  | .stalled _ | .unfit _ => false

theorem step_of_completes {m : Machine ρ δ} (hc : m.completes = true) :
    ∃ i?, m.step = .done i? m.next := by
  unfold completes at hc
  unfold next
  cases hs : m.step with
  | done i? m' => exact ⟨i?, rfl⟩
  | stalled m' => simp [hs] at hc
  | unfit m' => simp [hs] at hc

def Reachable (m : Machine ρ δ) : Prop :=
  ∃ config random devices ms, Course (powerOn config random devices) ms m

variable {m₀ m m' : Machine ρ δ} {ms ms' : List (Machine ρ δ)}

theorem eq_of_append_cons_eq_concat {α : Type} {xs ys zs : List α} {y z : α}
    (h : xs ++ y :: ys = zs ++ [z]) :
    (xs = zs ∧ y = z ∧ ys = []) ∨ ∃ ys',
      ys = ys' ++ [z] ∧ xs ++ y :: ys' = zs := by
  rcases List.eq_nil_or_concat ys with rfl | ⟨ys', last, rfl⟩
  · obtain ⟨hxs, hy⟩ := List.append_inj' h rfl
    exact .inl ⟨hxs, List.singleton_inj.mp hy, rfl⟩
  · have hsnoc : (xs ++ y :: ys') ++ [last] = zs ++ [z] := by simpa using h
    obtain ⟨hzs, hlast⟩ := List.append_inj' hsnoc rfl
    obtain rfl := List.singleton_inj.mp hlast
    exact .inr ⟨ys', List.concat_eq_append, hzs⟩

/-- Some element satisfies `P`, and all that come after it satisfy `Q`. -/
def Since {α : Type} (P Q : α → Prop) (xs : List α) : Prop :=
  ∃ before x after, xs = before ++ x :: after ∧ P x ∧ ∀ y ∈ after, Q y

section Since

variable {α : Type} {P Q : α → Prop}

theorem not_since_nil : ¬ Since P Q [] := by
  rintro ⟨before, x, after, h, -⟩
  simp at h

theorem since_append_singleton (xs : List α) (x : α) :
    Since P Q (xs ++ [x]) ↔ P x ∨ (Q x ∧ Since P Q xs) := by
  constructor
  · rintro ⟨before, y, after, h, hy, hafter⟩
    rcases eq_of_append_cons_eq_concat h.symm
      with ⟨rfl, rfl, rfl⟩ | ⟨after, rfl, rfl⟩
    · exact .inl hy
    · refine .inr ⟨hafter x (by simp), before, y, after, rfl, hy, ?_⟩
      intro z hz
      exact hafter z (List.mem_append_left [x] hz)
  · rintro (hx | ⟨hx, before, y, after, rfl, hy, hafter⟩)
    · exact ⟨xs, x, [], rfl, hx, by simp⟩
    · refine ⟨before, y, after ++ [x], by simp, hy, ?_⟩
      intro z hz
      rcases List.mem_append.mp hz with hz | hz
      · exact hafter z hz
      · obtain rfl := List.mem_singleton.mp hz
        exact hx

end Since

namespace Course

theorem next (h : Course m₀ ms m) (hc : m.completes = true) :
    Course m₀ (ms ++ [m]) m.next := by
  obtain ⟨i?, hstep⟩ := step_of_completes hc
  exact h.tick hstep

theorem append (h : Course m₀ ms m) (h' : Course m ms' m') :
    Course m₀ (ms ++ ms') m' := by
  induction h' with
  | start => simpa using h
  | outside s _ ih => exact ih.outside s
  | tick _ ht ih =>
      rw [← List.append_assoc]
      exact ih.tick ht

/-- What holds at the start and is kept by stimuli and ticks holds at every
tick of a course and at its end. -/
theorem invariant {P : Machine ρ δ → Prop} (h : Course m₀ ms m) (h₀ : P m₀)
    (hs : ∀ m s, P m → P (m.respond s))
    (ht : ∀ m i? m', P m → m.step = .done i? m' → P m') :
    P m ∧ ∀ k ∈ ms, P k := by
  induction h with
  | start => exact ⟨h₀, by simp⟩
  | outside s _ ih => exact ⟨hs _ s ih.1, ih.2⟩
  | @tick ms m m' i? _ hstep ih =>
      refine ⟨ht _ _ _ ih.1 hstep, ?_⟩
      intro k hk
      rcases List.mem_append.mp hk with hk | hk
      · exact ih.2 k hk
      · obtain rfl := List.mem_singleton.mp hk
        exact ih.1

theorem split {k : Machine ρ δ} (h : Course m₀ (ms ++ k :: ms') m) :
    Course m₀ ms k ∧ ∃ i? k', k.step = .done i? k' ∧ Course k' ms' m := by
  generalize hall : ms ++ k :: ms' = all at h
  induction h generalizing ms' with
  | start => simp at hall
  | outside s _ ih =>
      obtain ⟨hk, i?, k', hstep, hrest⟩ := ih hall
      exact ⟨hk, i?, k', hstep, hrest.outside s⟩
  | @tick all m m' i? h hstep ih =>
      rcases eq_of_append_cons_eq_concat hall
        with ⟨rfl, rfl, rfl⟩ | ⟨rest, rfl, hinit⟩
      · exact ⟨h, i?, m', hstep, .start⟩
      · obtain ⟨hk, j?, k', hk', hrest⟩ := ih hinit
        exact ⟨hk, j?, k', hk', hrest.tick hstep⟩

/-- A course without ticks changes only memory and keys. -/
theorem idle (h : Course m₀ [] m) :
    ∃ memory keypad arrivals events, m = { m₀ with
      core := { m₀.core with memory, keypad, arrivals, events } } := by
  generalize hms : [] = ms at h
  induction h with
  | start =>
    exact ⟨m₀.core.memory, m₀.core.keypad, m₀.core.arrivals, m₀.core.events,
      rfl⟩
  | outside s _ ih =>
      obtain ⟨_, _, _, _, rfl⟩ := ih hms
      obtain ⟨memory, keypad, arrivals, events, h⟩ := respond_eq _ s
      exact ⟨memory, keypad, arrivals, events, h⟩
  | tick => simp at hms

theorem of_first {k : Machine ρ δ} (h : Course m₀ (k :: ms) m) :
    Course k (k :: ms) m := by
  have hk : Course m₀ ([] ++ k :: ms) m := h
  obtain ⟨-, i?, k', hstep, hrest⟩ := hk.split
  exact (start.tick hstep).append hrest

end Course

theorem Course.inRange (h : Course m₀ ms m) (h₀ : m₀.InRange) :
    m.InRange ∧ ∀ k ∈ ms, k.InRange :=
  h.invariant h₀ (fun _ s hm => respond_inRange hm s)
    (fun _ _ _ hm hstep => (done_of_step hm.divider hstep).inRange hm)

theorem Course.divider_inRange (h : Course m₀ ms m) (h₀ : m₀.divider.InRange) :
    m.divider.InRange ∧ ∀ k ∈ ms, k.divider.InRange := by
  refine h.invariant (P := fun m => m.divider.InRange) h₀ ?_ ?_
  · intro m s hm
    obtain ⟨_, _, _, _, hs⟩ := m.respond_eq s
    rw [hs]
    exact hm
  · intro m i? m' hm hstep
    rw [(done_of_step hm hstep).divider]
    exact FrameDivider.advance_inRange _ _

/-- Induction over a course, with stimuli and ticks known by what is true of
them. -/
theorem Course.induction_divider {P : List (Machine ρ δ) → Machine ρ δ → Prop}
    (h : Course m₀ ms m) (h₀ : m₀.divider.InRange) (hstart : P [] m₀)
    (hs : ∀ ms m memory keypad arrivals events, P ms m →
      P ms { m with core := { m.core with memory, keypad, arrivals, events } })
    (ht : ∀ ms m m', Done m m' → P ms m → P (ms ++ [m]) m') : P ms m := by
  induction h with
  | start => exact hstart
  | @outside ms m s _ ih =>
      obtain ⟨memory, keypad, arrivals, events, hrespond⟩ := m.respond_eq s
      rw [hrespond]
      exact hs ms m memory keypad arrivals events ih
  | tick h hstep ih =>
    exact ht _ _ _ (done_of_step (h.divider_inRange h₀).1 hstep) ih

theorem Course.induction_done {P : List (Machine ρ δ) → Machine ρ δ → Prop}
    (h : Course m₀ ms m) (h₀ : m₀.InRange) (hstart : P [] m₀)
    (hs : ∀ ms m memory keypad arrivals events, P ms m →
      P ms { m with core := { m.core with memory, keypad, arrivals, events } })
    (ht : ∀ ms m m', m.InRange → Done m m' → P ms m → P (ms ++ [m]) m') :
    P ms m := by
  refine (h.induction_divider h₀.divider (P := fun ms m => m.InRange ∧ P ms m)
    ⟨h₀, hstart⟩ ?_ ?_).2
  · exact fun ms m memory keypad arrivals events hm =>
      ⟨⟨hm.1.registers, hm.1.divider⟩,
        hs ms m memory keypad arrivals events hm.2⟩
  · exact fun ms m m' hd hm => ⟨hd.inRange hm.1, ht ms m m' hm.1 hd hm.2⟩

theorem Course.split_divider {k : Machine ρ δ}
    (h : Course m₀ (ms ++ k :: ms') m) (h₀ : m₀.divider.InRange) :
    Course m₀ ms k ∧ ∃ k', Done k k' ∧ Course k' ms' m := by
  obtain ⟨hk, i?, k', hstep, hrest⟩ := h.split
  exact ⟨hk, k', done_of_step (hk.divider_inRange h₀).1 hstep, hrest⟩

theorem Course.split_done {k : Machine ρ δ} (h : Course m₀ (ms ++ k :: ms') m)
    (h₀ : m₀.InRange) :
    Course m₀ ms k ∧ k.InRange ∧ ∃ k', Done k k' ∧ Course k' ms' m := by
  obtain ⟨hk, hrest⟩ := h.split_divider h₀.divider
  exact ⟨hk, (hk.inRange h₀).1, hrest⟩

/-- The devices get the signals of all ticks, in order, and nothing else. -/
theorem Course.devices_eq_foldl (h : Course m₀ ms m)
    (h₀ : m₀.divider.InRange) :
    m.devices = (ms.flatMap (·.sent)).foldl
      (fun d s => Devices.receive s d) m₀.devices := by
  refine h.induction_divider h₀ (P := fun ms m => m.devices =
    (ms.flatMap (·.sent)).foldl (fun d s => Devices.receive s d) m₀.devices)
    rfl ?_ ?_
  · exact fun _ _ _ _ _ _ hm => hm
  · intro ms m m' hd hm
    rw [hd.devices, hm, List.flatMap_append, List.foldl_append,
      List.flatMap_singleton]

theorem Course.devices_eq (h : Course m₀ ms m) (h₀ : m₀.InRange) :
    m.devices = (ms.flatMap (·.sent)).foldl
      (fun d s => Devices.receive s d) m₀.devices :=
  h.devices_eq_foldl h₀.divider

theorem Course.config_eq (h : Course m₀ ms m) (h₀ : m₀.divider.InRange) :
    m.config = m₀.config :=
  h.induction_divider h₀ (P := fun _ m => m.config = m₀.config) rfl
    (fun _ _ _ _ _ _ hm => hm) (fun _ _ _ hd hm => hd.config.trans hm)

/-- The frame divider counts the completed ticks. -/
theorem Course.divider_eq (h : Course m₀ ms m) (h₀ : m₀.divider.InRange) :
    m.divider = m₀.divider.advance ms.length := by
  refine h.induction_divider h₀
    (P := fun ms m => m.divider = m₀.divider.advance ms.length) ?_
    (fun _ _ _ _ _ _ hm => hm) ?_
  · exact (FrameDivider.advance_zero h₀).symm
  · intro ms m m' hd hm
    rw [hd.divider, hm, FrameDivider.advance_advance, List.length_append]
    rfl

/-- From the start of the divider on every tick whose number, counted from
zero, is a multiple of the period does the frame work. -/
theorem Course.due_iff_of_start {period : Nat} {hp : 0 < period}
    (h : Course m₀ ms m) (h₀ : m₀.divider = .start period hp) :
    m.divider.due = true ↔ ms.length % period = 0 := by
  have hin : m₀.divider.InRange := h₀ ▸ FrameDivider.start_inRange period hp
  rw [h.divider_eq hin, h₀]
  exact FrameDivider.due_start_advance period hp ms.length

theorem Course.due_iff {config : Config} {random : ρ} {devices : δ}
    (h : Course (powerOn config random devices) ms m) :
    m.divider.due = true ↔ ms.length % config.ticksPerFrame = 0 :=
  h.due_iff_of_start rfl

theorem Reachable.inRange (h : m.Reachable) : m.InRange := by
  obtain ⟨config, random, devices, ms, hc⟩ := h
  exact (hc.inRange (powerOn_inRange config random devices)).1

theorem Reachable.course (h : m₀.Reachable) (hc : Course m₀ ms m) :
    m.Reachable := by
  obtain ⟨config, random, devices, ms₀, h₀⟩ := h
  exact ⟨config, random, devices, ms₀ ++ ms, h₀.append hc⟩

/-! ## Scripts -/

inductive Act where
  | outside (s : Stimulus)
  | tick

/-- A course with all that happens in it: the acts, in order, and again the
machines at the start of its ticks. -/
inductive Script (m₀ : Machine ρ δ) :
    List Act → List (Machine ρ δ) → Machine ρ δ → Prop
  | start : Script m₀ [] [] m₀
  | outside {acts ms m} (s : Stimulus) : Script m₀ acts ms m →
      Script m₀ (acts ++ [.outside s]) ms (m.respond s)
  | tick {acts ms m m' i?} : Script m₀ acts ms m → m.step = .done i? m' →
      Script m₀ (acts ++ [.tick]) (ms ++ [m]) m'

theorem Script.course {acts : List Act} (h : Script m₀ acts ms m) :
    Course m₀ ms m := by
  induction h with
  | start => exact .start
  | outside s _ ih => exact ih.outside s
  | tick _ hstep ih => exact ih.tick hstep

theorem Script.next {acts : List Act} (h : Script m₀ acts ms m)
    (hc : m.completes = true) :
    Script m₀ (acts ++ [.tick]) (ms ++ [m]) m.next := by
  obtain ⟨i?, hstep⟩ := step_of_completes hc
  exact h.tick hstep

end Machine

end Chip8
