import Chip8.Machine.Run
import Chip8.Pacing.Simulated
import Chip8.Proofs.SameState
import Chip8.Proofs.TickEnd
import Chip8.Proofs.WellFormed

/-!
# A run is its ticks

A run ticks the machine, holds the ticks to a clock and reports how long they
took. The clock and the meter go their own way, whatever the machine does; the
machine does what single ticks would do, whatever the clock says, as long as
each wait comes to its end and each time that is reported is not too large to
be told. `Timekeeper.Passes` is such a way, for any number of laps.

`Machine.runAmid` is a run with stimuli before its ticks, and
`Machine.afterTicks` the machine after single ticks with the same stimuli
before them. `Machine.lap_beside` is what one lap preserves, and
`Machine.runAmidFrom_beside` follows both machines through a whole run.
-/

namespace Chip8

namespace Timekeeper

variable {κ : Type} [Clock κ]

/-- The wait for the end of a tick that starts now ends; in a run that is not
paced there is none. -/
def TickEnds (t : Timekeeper κ) (paced : Bool) (u : Timekeeper κ) : Prop :=
  if paced then Waits (t.startTick.1 + t.period) t.startTick.2 u
  else u = t.startTick.2

theorem TickEnds.wait_eq {t u : Timekeeper κ} {paced : Bool}
    (h : t.TickEnds paced u) :
    (if paced then t.startTick.2.waitForTickEnd else .over t.startTick.2) =
      .over u := by
  cases paced with
  | true => exact Waits.waitUntil_eq h
  | false => exact congrArg Wait.over (Eq.symm h)

def metered (t u : Timekeeper κ) (meter : Meter) : Meter :=
  ⟨meter.ticks + 1, meter.nanoseconds + (u.now.1 - t.startTick.1)⟩

/-- What a lap does to the clock and to the meter, if the speed is reported
every `hz` ticks. -/
inductive Pass (paced : Bool) (hz : Nat) (t : Timekeeper κ) (meter : Meter) :
    Timekeeper κ → Meter → Prop
  | kept {u} : t.TickEnds paced u → (metered t u meter).ticks < hz →
      Pass paced hz t meter u.now.2 (metered t u meter)
  | told {u} : t.TickEnds paced u → ¬ (metered t u meter).ticks < hz →
      Numeric.hasFloat (metered t u meter).nanoseconds = true →
      Pass paced hz t meter u.now.2 {}

inductive Passes (paced : Bool) (hz : Nat) :
    Nat → Timekeeper κ → Meter → Timekeeper κ → Meter → Prop
  | none {t meter} : Passes paced hz 0 t meter t meter
  | lap {n t meter t₁ meter₁ t' meter'} : Pass paced hz t meter t₁ meter₁ →
      Passes paced hz n t₁ meter₁ t' meter' →
      Passes paced hz (n + 1) t meter t' meter'

end Timekeeper

/-- A clock that shows given times, one after the other. -/
structure Readings where
  times : List Int

instance : Clock Readings where
  read c := (c.times.headD 0, ⟨c.times.tail⟩)
  sleep _ c := some c
  yield c := c

namespace Machine

instance {ρ δ : Type} (m : Machine ρ δ) : Decidable m.WaitsInVain :=
  inferInstanceAs (Decidable (_ ∧ _))

section Run

variable {ρ δ κ : Type} [RandomSource ρ] [Devices δ] [Clock κ]

def respondAll (m : Machine ρ δ) (batch : List Stimulus) : Machine ρ δ :=
  batch.foldl respond m

/-- The machines at the start of single ticks, a batch of stimuli before each
of them. -/
def tickStarts (m : Machine ρ δ) : List (List Stimulus) → List (Machine ρ δ)
  | [] => []
  | batch :: rest =>
    m.respondAll batch :: (m.respondAll batch).next.tickStarts rest

def afterTicks (m : Machine ρ δ) : List (List Stimulus) → Machine ρ δ
  | [] => m
  | batch :: rest => (m.respondAll batch).next.afterTicks rest

@[simp] theorem length_tickStarts (m : Machine ρ δ)
    (batches : List (List Stimulus)) :
    (m.tickStarts batches).length = batches.length := by
  induction batches generalizing m with
  | nil => rfl
  | cons batch rest ih => exact congrArg (· + 1) (ih _)

theorem tickStarts_concat (m : Machine ρ δ) (batches : List (List Stimulus))
    (batch : List Stimulus) :
    m.tickStarts (batches ++ [batch]) =
      m.tickStarts batches ++ [(m.afterTicks batches).respondAll batch] := by
  induction batches generalizing m with
  | nil => rfl
  | cons first rest ih =>
      rw [List.cons_append, tickStarts, ih]
      rfl

theorem afterTicks_concat (m : Machine ρ δ) (batches : List (List Stimulus))
    (batch : List Stimulus) :
    m.afterTicks (batches ++ [batch]) =
      ((m.afterTicks batches).respondAll batch).next := by
  induction batches generalizing m with
  | nil => rfl
  | cons first rest ih =>
      rw [List.cons_append, afterTicks, ih]
      rfl

/-- Continues a run in which `executed` ticks are done with a lap after each
batch of stimuli. -/
def runAmidFrom (paced : Bool) (executed : Nat) :
    List (List Stimulus) → Machine ρ δ → Timekeeper κ → Run ρ δ κ
  | [], m, t => ⟨m, t, executed, .exhausted⟩
  | batch :: rest, m, t =>
    match (m.respondAll batch).lap paced t with
    | .passed m t => runAmidFrom paced (executed + 1) rest m t
    | .ended m t ticks ending => ⟨m, t, executed + ticks, ending⟩

/-- A run with stimuli before its ticks. -/
def runAmid (m : Machine ρ δ) (t : Timekeeper κ) (paced : Bool)
    (batches : List (List Stimulus)) : Run ρ δ κ :=
  runAmidFrom paced 0 batches m t

/-- Without stimuli this is a run that nothing stops. -/
theorem runFrom_eq_runAmidFrom (paced : Bool) (executed n : Nat)
    (m : Machine ρ δ) (t : Timekeeper κ) :
    runFrom paced (fun _ => false) executed n m t =
      runAmidFrom paced executed (List.replicate n []) m t := by
  induction n generalizing executed m t with
  | zero => rfl
  | succ n ih =>
      have hlap : (m.respondAll []).lap paced t = m.lap paced t := rfl
      rw [List.replicate_succ, runFrom, runAmidFrom, if_neg Bool.false_ne_true,
        hlap]
      cases m.lap paced t with
      | passed m t => exact ih (executed + 1) m t
      | ended m t ticks ending => rfl

theorem run_eq_runAmid (m : Machine ρ δ) (t : Timekeeper κ) (paced : Bool)
    (limit : Int) :
    m.run t paced (fun _ => false) limit =
      m.runAmid t paced (List.replicate limit.toNat []) :=
  runFrom_eq_runAmidFrom paced 0 limit.toNat m t

theorem lap_of_step {m m' : Machine ρ δ} {t t' : Timekeeper κ} {paced : Bool}
    {meter : Meter} {i? : Option Instruction} (hstep : m.step = .done i? m')
    (hpass : t.Pass paced m.config.hz m.meter t' meter) :
    ∃ events, m.lap paced t =
      .passed { m' with core := { m'.core with events }, meter } t' := by
  have hmeter := (entitled_of_step hstep).meter
  have hconfig := (entitled_of_step hstep).config
  simp only [lap, hstep, settle]
  cases hpass with
  | kept hwait hshort =>
      rw [Timekeeper.metered] at hshort
      simp only [hwait.wait_eq, reportSpeed?, account, hmeter, hconfig]
      exact ⟨m'.core.events, by rw [if_pos hshort]; rfl⟩
  | told hwait hlong hfloat =>
      rw [Timekeeper.metered] at hlong hfloat
      simp only [hwait.wait_eq, reportSpeed?, account, hmeter, hconfig]
      exact ⟨_, by rw [if_neg hlong, if_pos hfloat]; rfl⟩

/-- All that a lap can be: its tick is not completed, or the wait for the end
of the tick is refused, or it is over and the time is read once more. -/
theorem lap_cases (m : Machine ρ δ) (paced : Bool) (t : Timekeeper κ) :
    (∃ m', m.lap paced t = .ended m' t.startTick.2 0 .stalled ∨
        m.lap paced t = .ended m' t.startTick.2 0 .unfit) ∨
      (∃ m' u,
        (if paced then t.startTick.2.waitForTickEnd else .over t.startTick.2) =
          .refused u ∧ m.lap paced t = .ended m' u 1 .overlong) ∨
      ∃ m' u,
        (if paced then t.startTick.2.waitForTickEnd else .over t.startTick.2) =
          .over u ∧
        (m.lap paced t = .ended m' u.now.2 1 .overlong ∨
          m.lap paced t = .passed m' u.now.2) := by
  cases hstep : m.step with
  | stalled m' => exact .inl ⟨m', .inl (by simp only [lap, hstep])⟩
  | unfit m' => exact .inl ⟨m', .inr (by simp only [lap, hstep])⟩
  | done i? m' =>
      refine .inr ?_
      rcases hwait : (if paced then t.startTick.2.waitForTickEnd
          else .over t.startTick.2) with u | u
      · refine .inr ?_
        cases hreport :
            (m'.account (u.now.1 - t.startTick.1)).reportSpeed? with
        | none =>
            refine ⟨m'.account (u.now.1 - t.startTick.1), u, rfl, .inl ?_⟩
            simp only [lap, hstep, settle, hwait, hreport]
        | some m'' =>
            refine ⟨m'', u, rfl, .inr ?_⟩
            simp only [lap, hstep, settle, hwait, hreport]
      · exact .inl ⟨m', u, rfl, by simp only [lap, hstep, settle, hwait]⟩

theorem ending_ne_exhausted {m m' : Machine ρ δ} {t t' : Timekeeper κ}
    {paced : Bool} {ticks : Nat} {ending : RunEnd}
    (h : m.lap paced t = .ended m' t' ticks ending) :
    ending ≠ .exhausted := by
  rcases lap_cases m paced t
    with ⟨_, hlap | hlap⟩ | ⟨_, _, -, hlap⟩ | ⟨_, _, -, hlap | hlap⟩ <;>
    rw [hlap] at h <;> cases h <;> nofun

theorem runAmidFrom_add (paced : Bool) (executed more : Nat)
    (batches : List (List Stimulus)) (m : Machine ρ δ) (t : Timekeeper κ) :
    runAmidFrom paced (executed + more) batches m t =
      { runAmidFrom paced more batches m t with
        executed := executed +
          (runAmidFrom paced more batches m t).executed } := by
  induction batches generalizing more m t with
  | nil => rfl
  | cons batch rest ih =>
      unfold runAmidFrom
      cases (m.respondAll batch).lap paced t with
      | passed m t => exact ih (more + 1) m t
      | ended m t ticks ending => simp [Nat.add_assoc]

/-- A run that does all of its ticks goes on where a shorter one ends. -/
theorem runAmidFrom_append {paced : Bool} {executed : Nat}
    {batches more : List (List Stimulus)} {m : Machine ρ δ} {t : Timekeeper κ}
    (h : (runAmidFrom paced executed (batches ++ more) m t).ending =
      .exhausted) :
    ∃ m' t', runAmidFrom paced executed batches m t =
        ⟨m', t', executed + batches.length, .exhausted⟩ ∧
      runAmidFrom paced executed (batches ++ more) m t =
        runAmidFrom paced (executed + batches.length) more m' t' := by
  induction batches generalizing executed m t with
  | nil => exact ⟨m, t, rfl, rfl⟩
  | cons batch rest ih =>
      have hcount :
          executed + (batch :: rest).length = executed + 1 + rest.length := by
        rw [List.length_cons]
        omega
      rw [List.cons_append, runAmidFrom] at h
      rw [hcount, List.cons_append, runAmidFrom, runAmidFrom]
      cases hlap : (m.respondAll batch).lap paced t with
      | passed m t =>
          rw [hlap] at h
          exact ih h
      | ended m t ticks ending =>
          rw [hlap] at h
          exact absurd h (ending_ne_exhausted hlap)

/-- Two runs, one after the other, are one run of as many ticks. -/
theorem run_add {m : Machine ρ δ} {t : Timekeeper κ} {paced : Bool} {a b : Nat}
    (h : (m.run t paced (fun _ => false) (a + b)).ending = .exhausted) :
    ∃ m₁ t₁ m₂ t₂, m.run t paced (fun _ => false) a = ⟨m₁, t₁, a, .exhausted⟩ ∧
      m₁.run t₁ paced (fun _ => false) b = ⟨m₂, t₂, b, .exhausted⟩ ∧
      m.run t paced (fun _ => false) (a + b) =
        ⟨m₂, t₂, a + b, .exhausted⟩ := by
  have hsplit : List.replicate ((a : Int) + b).toNat ([] : List Stimulus) =
      List.replicate a [] ++ List.replicate b [] := by
    rw [List.replicate_append_replicate]
    congr 1
  simp only [run_eq_runAmid, hsplit, runAmid] at h ⊢
  obtain ⟨m₁, t₁, hfirst, hboth⟩ := runAmidFrom_append h
  have hcount :
      0 + (List.replicate a ([] : List Stimulus)).length = a + 0 := by
    simp
  rw [hcount] at hfirst hboth
  rw [hboth, runAmidFrom_add] at h
  have hend : (runAmidFrom paced 0 (List.replicate b [] ++ []) m₁ t₁).ending =
      .exhausted := by
    rwa [List.append_nil]
  obtain ⟨m₂, t₂, hsecond, -⟩ := runAmidFrom_append hend
  rw [List.length_replicate, Nat.zero_add] at hsecond
  exact ⟨m₁, t₁, m₂, t₂, hfirst, hsecond,
    by rw [hboth, runAmidFrom_add, hsecond]⟩

end Run

/-! ## A run beside single ticks -/

section Beside

variable {ρ ρ' δ δ' κ : Type} [RandomSource ρ] [RandomSource ρ'] [Devices δ]
  [Devices δ'] [Clock κ]

omit [RandomSource ρ] [Devices δ] in
theorem respondAll_eq (m : Machine ρ δ) (batch : List Stimulus) :
    ∃ memory keypad arrivals events, m.respondAll batch =
      { m with core := { m.core with memory, keypad, arrivals, events } } := by
  unfold respondAll
  refine List.foldlRecOn (motive := fun k : Machine ρ δ =>
    ∃ memory keypad arrivals events, k =
      { m with core := { m.core with memory, keypad, arrivals, events } }) _ _
      ?_ ?_
  · exact ⟨m.core.memory, m.core.keypad, m.core.arrivals, m.core.events, rfl⟩
  · rintro _ ⟨_, _, _, _, rfl⟩ s -
    obtain ⟨memory, keypad, arrivals, events, h⟩ := respond_eq _ s
    exact ⟨memory, keypad, arrivals, events, h⟩

omit [Devices δ] [Devices δ'] in
theorem Same.respondAll {m : Machine ρ δ} {k : Machine ρ' δ'} (h : m.Same k)
    (batch : List Stimulus) : (m.respondAll batch).Same (k.respondAll batch) :=
  List.foldl_rel h fun s _ _ _ h => h.respond s

omit [Devices δ] [Devices δ'] in
theorem Same.settled {m : Machine ρ δ} {k : Machine ρ' δ'} (h : m.Same k)
    (events : List Event) (meter : Meter) :
    Same { m with core := { m.core with events }, meter } k where
  config := h.config
  core := { h.core with }
  divider := h.divider
  unknownCount := h.unknownCount

theorem step_of_not_waitsInVain {m : Machine ρ δ} (hin : m.InRange)
    (h : ¬ m.WaitsInVain) :
    ∃ i?, m.step = .done i? m.next := by
  refine step_of_completes ?_
  rcases outcome_cases hin with ⟨ho, -⟩ | ⟨-, hvain⟩
  · rw [completes, step_eq, ho]
  · exact absurd hvain h

/-- What one machine has become of `m` and another one of `k` while some ticks
of `k` were done, which started from the machines `starts`: the same, by the
same signals. -/
structure Beside (m m' : Machine ρ δ) (k k' : Machine ρ' δ')
    (starts : List (Machine ρ' δ')) :
    Prop where
  same : m'.Same k'
  cycles : m'.core.registers.cycles = m.core.registers.cycles + starts.length
  devices : m'.devices =
    (starts.flatMap (·.sent)).foldl (fun d s => Devices.receive s d) m.devices
  devices_ticks : k'.devices =
    (starts.flatMap (·.sent)).foldl (fun d s => Devices.receive s d) k.devices

theorem Beside.append {m m' m'' : Machine ρ δ} {k k' k'' : Machine ρ' δ'}
    {starts starts' : List (Machine ρ' δ')} (h : Beside m m' k k' starts)
    (h' : Beside m' m'' k' k'' starts') :
    Beside m m'' k k'' (starts ++ starts') where
  same := h'.same
  cycles := by
    rw [h'.cycles, h.cycles, List.length_append]
    omega
  devices := by
    rw [h'.devices, h.devices, List.flatMap_append, List.foldl_append]
  devices_ticks := by
    rw [h'.devices_ticks, h.devices_ticks, List.flatMap_append,
      List.foldl_append]

theorem Beside.of_respondAll {m m' : Machine ρ δ} {k k' : Machine ρ' δ'}
    {batch : List Stimulus} {starts : List (Machine ρ' δ')}
    (h : Beside (m.respondAll batch) m' (k.respondAll batch) k' starts) :
    Beside m m' k k' starts := by
  obtain ⟨_, _, _, _, hm⟩ := m.respondAll_eq batch
  obtain ⟨_, _, _, _, hk⟩ := k.respondAll_eq batch
  rw [hm, hk] at h
  exact ⟨h.same, h.cycles, h.devices, h.devices_ticks⟩

/-- A lap of one machine beside a tick of another one in the same state. -/
theorem lap_beside {m : Machine ρ δ} {k : Machine ρ' δ'} (h : m.Same k)
    (hin : m.InRange) (hkeys : ¬ k.WaitsInVain) {t t' : Timekeeper κ}
    {paced : Bool} {meter : Meter}
    (hpass : t.Pass paced m.config.hz m.meter t' meter) :
    ∃ m', m.lap paced t = .passed m' t' ∧ (∃ i?, k.step = .done i? k.next) ∧
      Beside m m' k k.next [k] ∧ m'.InRange ∧ m'.config = m.config ∧
        m'.meter = meter := by
  obtain ⟨i?, hstep'⟩ := step_of_not_waitsInVain (h.inRange hin) hkeys
  obtain ⟨m', hstep, hsame, hsent⟩ := h.symm.step (h.inRange hin) hstep'
  obtain ⟨events, hlap⟩ := lap_of_step hstep hpass
  have hd := done_of_step hin.divider hstep
  have hd' := done_of_step (h.inRange hin).divider hstep'
  have hentitled := entitled_of_step hstep
  have hin' := hd.inRange hin
  have hbeside : Beside m m' k k.next [k] := by
    refine ⟨hsame.symm, hentitled.cycles, ?_, ?_⟩
    · rw [List.flatMap_singleton, hsent, hd.devices]
    · rw [List.flatMap_singleton, hd'.devices]
  refine ⟨_, hlap, ⟨i?, hstep'⟩, ?_, ⟨hin'.registers, hin'.divider⟩,
    hentitled.config, rfl⟩
  exact ⟨hbeside.same.settled events meter, hbeside.cycles, hbeside.devices,
    hbeside.devices_ticks⟩

/-- A run of one machine beside single ticks of another one in the same state,
with the same stimuli before the same ticks. -/
theorem runAmidFrom_beside {m : Machine ρ δ} {k : Machine ρ' δ'} (h : m.Same k)
    (hin : m.InRange) {batches : List (List Stimulus)}
    (hkeys : ∀ s ∈ k.tickStarts batches, ¬ s.WaitsInVain) {t t' : Timekeeper κ}
    {paced : Bool} {meter : Meter}
    (hpass : t.Passes paced m.config.hz batches.length m.meter t' meter)
    (executed : Nat) :
    ∃ m', runAmidFrom paced executed batches m t =
        ⟨m', t', executed + batches.length, .exhausted⟩ ∧
      (∀ s ∈ k.tickStarts batches, ∃ i?, s.step = .done i? s.next) ∧
      Beside m m' k (k.afterTicks batches) (k.tickStarts batches) := by
  induction batches generalizing m k t executed with
  | nil =>
      cases hpass
      exact ⟨m, rfl, by simp [tickStarts], h, (Int.add_zero _).symm, rfl, rfl⟩
  | cons batch rest ih =>
      obtain ⟨_, _, _, _, hm⟩ := m.respondAll_eq batch
      have hconfig : (m.respondAll batch).config = m.config := by rw [hm]
      have hmeter : (m.respondAll batch).meter = m.meter := by rw [hm]
      have hin' : (m.respondAll batch).InRange := by
        rw [hm]
        exact ⟨hin.registers, hin.divider⟩
      obtain _ | ⟨hfirst, hrest⟩ := hpass
      rw [← hconfig, ← hmeter] at hfirst
      obtain ⟨m₁, hlap, hstep, hbeside, hin₁, hconfig₁, hmeter₁⟩ :=
        lap_beside (h.respondAll batch) hin'
          (hkeys _ List.mem_cons_self) hfirst
      rw [← hmeter₁, ← hconfig, ← hconfig₁] at hrest
      obtain ⟨m', hrun, hsteps, hbesides⟩ := ih hbeside.same hin₁
        (fun s hs => hkeys s (List.mem_cons_of_mem _ hs)) hrest (executed + 1)
      refine ⟨m', ?_, List.forall_mem_cons.mpr ⟨hstep, hsteps⟩,
        (hbeside.append hbesides).of_respondAll⟩
      have hcount :
          executed + (batch :: rest).length = executed + 1 + rest.length := by
        rw [List.length_cons]
        omega
      rw [runAmidFrom, hlap, hcount]
      exact hrun

/-- Clocks, pacing, tracing and devices have no part in what a machine does. A
run and single ticks, from the same state (in range, as a machine always is)
and with the same stimuli before the same ticks, end in the same state and send
the same signals, if no key is waited for in vain, each wait for the end of a
tick ends and no time that is reported is too large to be told. So a run does
just the ticks that it is allowed, and two runs do what one run of as many
ticks does. -/
theorem run_same_as_ticks {m : Machine ρ δ} {k : Machine ρ' δ'} (h : m.Same k)
    (hin : m.InRange) (t : Timekeeper κ) (paced : Bool) :
    (∀ batches : List (List Stimulus),
      (∀ s ∈ k.tickStarts batches, ¬ s.WaitsInVain) → ∀ {t' meter'},
      t.Passes paced m.config.hz batches.length m.meter t' meter' →
      ∃ m', m.runAmid t paced batches = ⟨m', t', batches.length, .exhausted⟩ ∧
        m'.core.registers.cycles = m.core.registers.cycles + batches.length ∧
        (∀ s ∈ k.tickStarts batches, ∃ i?, s.step = .done i? s.next) ∧
        Beside m m' k (k.afterTicks batches) (k.tickStarts batches)) ∧
    (∀ limit : Int, m.run t paced (fun _ => false) limit =
      m.runAmid t paced (List.replicate limit.toNat [])) ∧
    ∀ a b : Nat,
      (∀ s ∈ k.tickStarts (List.replicate (a + b) []), ¬ s.WaitsInVain) →
      ∀ {t' meter'}, t.Passes paced m.config.hz (a + b) m.meter t' meter' →
      ∃ m₁ t₁ m₂, m.run t paced (fun _ => false) a = ⟨m₁, t₁, a, .exhausted⟩ ∧
        m₁.run t₁ paced (fun _ => false) b = ⟨m₂, t', b, .exhausted⟩ ∧
        m.run t paced (fun _ => false) (a + b) =
          ⟨m₂, t', a + b, .exhausted⟩ := by
  have hrun : ∀ batches : List (List Stimulus),
      (∀ s ∈ k.tickStarts batches, ¬ s.WaitsInVain) → ∀ {t' meter'},
      t.Passes paced m.config.hz batches.length m.meter t' meter' →
      ∃ m', m.runAmid t paced batches = ⟨m', t', batches.length, .exhausted⟩ ∧
        (∀ s ∈ k.tickStarts batches, ∃ i?, s.step = .done i? s.next) ∧
        Beside m m' k (k.afterTicks batches) (k.tickStarts batches) := by
    intro batches hkeys t' meter' hpass
    have hrun := runAmidFrom_beside h hin hkeys hpass 0
    rwa [Nat.zero_add] at hrun
  refine ⟨?_, m.run_eq_runAmid t paced, ?_⟩
  · intro batches hkeys t' meter' hpass
    obtain ⟨m', hend, hsteps, hbeside⟩ := hrun batches hkeys hpass
    refine ⟨m', hend, ?_, hsteps, hbeside⟩
    rw [hbeside.cycles, length_tickStarts]
  · intro a b hkeys t' meter' hpass
    have hcount : ((a : Int) + b).toNat = a + b := by omega
    obtain ⟨m', hend, -⟩ := hrun _ hkeys (by rwa [List.length_replicate])
    rw [List.length_replicate, ← hcount, ← run_eq_runAmid, hcount] at hend
    obtain ⟨m₁, t₁, m₂, t₂, hfirst, hsecond, hboth⟩ := run_add (by rw [hend])
    obtain rfl : t₂ = t' := congrArg Run.keeper (hboth.symm.trans hend)
    exact ⟨m₁, t₁, m₂, hfirst, hsecond, hboth⟩

/-- Three ticks of a frame each, on a clock that stands still for three
readings of the first one, by which the second one is late and after which it
goes back; on the other side single ticks, without a trace and on other
devices. -/
theorem paced_run_same_as_ticks :
    let config : Config := { hz := 60 }
    let load := Stimulus.load "tone" 512 [0xC0, 0xFF, 0xF0, 0x18, 0x12, 0x02]
    let m : Machine CycledBytes (List Signal) :=
      { (powerOn config ⟨[3, 9], [3, 9]⟩ []).respond load with
        trace := { on := true }
        meter := ⟨57, 5⟩ }
    let k : Machine CycledBytes (FrameRecord × ToneRecord) :=
      (powerOn config ⟨[3, 9], [3, 9]⟩ ({}, {})).respond load
    let t : Timekeeper Readings :=
      { period := config.nanosPerTick
        clock :=
          ⟨[0, 9, 16666000, 16666000, 16666000, 16666667, 16666700, 20000000,
          80000000, 80000001, 7, 8, 16666674, 16666675]⟩
        period_pos := config.nanosPerTick_pos }
    let t' : Timekeeper Readings :=
      { t with tickStart := some 7, overruns := 1, clock := ⟨[]⟩ }
    let batches := [[], [.press 5], []]
    m.Same k ∧ t.Passes true config.hz 3 m.meter t' {} ∧
      ∃ m', m.runAmid t true batches = ⟨m', t', 3, .exhausted⟩ ∧
        Beside m m' k (k.afterTicks batches) (k.tickStarts batches) := by
  intro config load m k t t' batches
  have hnew :
      (powerOn config (⟨[3, 9], [3, 9]⟩ : CycledBytes) ([] : List Signal)).Same
      (powerOn config (⟨[3, 9], [3, 9]⟩ : CycledBytes)
        (({}, {}) : FrameRecord × ToneRecord)) := .powerOn config _ _ rfl
  have hload := hnew.respond load
  have hsame : m.Same k :=
    ⟨hload.config, hload.core, hload.divider, hload.unknownCount⟩
  have hin : m.InRange := by
    have hload :=
      respond_inRange (powerOn_inRange config (⟨[3, 9], [3, 9]⟩ : CycledBytes)
      ([] : List Signal)) load
    exact ⟨hload.registers, hload.divider⟩
  have hkeys : ∀ s ∈ k.tickStarts batches, ¬ s.WaitsInVain := by decide +kernel
  have hfirst :
      Timekeeper.Spins (0 + t.period) (⟨t.clock.times.drop 2⟩ : Readings) 3
      ⟨t.clock.times.drop 6⟩ :=
    .turn (by decide)
      (.turn (by decide) (.turn (by decide) (.reached (by decide))))
  have hthird :
      Timekeeper.Spins (7 + t.period) (⟨t.clock.times.drop 12⟩ : Readings) 0
      ⟨t.clock.times.drop 13⟩ :=
    .reached (by decide)
  have hpass : t.Passes true config.hz 3 m.meter t' {} := by
    refine .lap
      (.kept (.early (by decide) (if_pos (by decide)) hfirst) (by decide)) ?_
    refine .lap (.kept (.late (by decide)) (by decide)) ?_
    refine .lap (.told (.early (by decide) (if_pos (by decide)) hthird)
      (by decide) ?_) .none
    decide +kernel
  obtain ⟨m', hrun, -, -, hbeside⟩ :=
    (run_same_as_ticks hsame hin t true).1 batches hkeys hpass
  exact ⟨hsame, hpass, m', hrun, hbeside⟩

/-- A clock that a reading takes too long on for a double: the tick is done,
but the run breaks off at its report. -/
theorem run_overlong :
    let config : Config := { hz := 1 }
    let m : Machine CycledBytes (List Signal) :=
      (powerOn config ⟨[], []⟩ []).respond (.load "spin" 512 [0x12, 0x00])
    let t : Timekeeper SimulatedClock :=
      { period := config.nanosPerTick
        clock := { perRead := Numeric.tooLarge }
        period_pos := config.nanosPerTick_pos }
    ¬ m.WaitsInVain ∧ m.completes = true ∧
      (m.run t false (fun _ => false) 1).ending = .overlong := by
  decide +kernel

end Beside

end Machine

end Chip8
