import Chip8.Proofs.Entitlement
import Chip8.Proofs.KeyChannel

/-!
# The wait for a key

A wait ends with the first poll that sees a key held.
`Keypad.FirstHeld k batches n` says that this is the poll after `n` batches of
events, in terms of the events alone: which keys are held after some events is
told by the last event about each key (`Snapshot.heldAfter`). So a key that
goes down and up within one batch is never seen, and the key that is taken
depends on the events through what the last poll sees and nothing else
(`Snapshot.Takes`).

For the machine a tick that waits is a tick that does nothing
(`Machine.idleTick`), but for the register that gets the key and for the
keypad. A wait in vain leaves a tick half done: the word is fetched and the
program counter is past it, and the tick is neither counted nor followed by
frame work.
-/

namespace Chip8

namespace Snapshot

/-- The key that a wait takes of those it sees held: the last one pressed if it
is among them, else the lowest. -/
structure Takes (s : Snapshot) (key : Key) : Prop where
  held : s.isHeld key = true
  last : s.isHeld s.last = true → key = s.last
  lowest : s.isHeld s.last = false → ∀ other, s.isHeld other = true →
    key ≤ other

theorem takes_of_chosen? {s : Snapshot} {key : Key}
    (h : s.chosen? = some key) :
    s.Takes key := by
  unfold chosen? at h
  by_cases hlast : s.isHeld s.last = true
  · rw [if_pos hlast] at h
    obtain rfl := Option.some.inj h
    exact ⟨hlast, fun _ => rfl, fun hnot => by simp [hlast] at hnot⟩
  · rw [if_neg hlast, heldKeys, List.head?_filter,
      List.find?_eq_some_iff_getElem] at h
    obtain ⟨hheld, i, hi, hkey, hbefore⟩ := h
    refine ⟨hheld, fun hl => absurd hl hlast, fun _ other hother => ?_⟩
    by_contra hlt
    have hkey' : key.val = i := by rw [← hkey, List.getElem_finRange]; rfl
    have hnot := hbefore other.val (hkey' ▸ Nat.lt_of_not_le hlt)
    rw [List.getElem_finRange] at hnot
    simp [hother] at hnot

theorem heldAfter_append (s : Snapshot) (events batch : List KeyEvent)
    (key : Key) :
    s.heldAfter (events ++ batch) key =
      (((batch.filter (·.key = key)).getLast?).map (·.down)).getD
        (s.heldAfter events key) := by
  rw [heldAfter, List.filter_append, List.getLast?_append]
  cases (batch.filter (·.key = key)).getLast? <;> rfl

/-- A key that is up at the end of a batch, or not in it, is not held because
of the batch. -/
theorem heldAfter_append_of_not_press (s : Snapshot)
    {events batch : List KeyEvent} {key : Key}
    (hup : lastIsPress batch key = false)
    (hnot : s.heldAfter events key = false) :
    s.heldAfter (events ++ batch) key = false := by
  rw [heldAfter_append, hnot]
  unfold lastIsPress at hup
  cases hlast : (batch.filter (·.key = key)).getLast? with
  | none => rfl
  | some e => simpa [hlast] using hup

end Snapshot

namespace Keypad

/-- The events that the poll after `n` batches has applied, in order: those of
the queue and those of the batches. -/
def eventsUpTo (k : Keypad) (batches : List (List KeyEvent)) (n : Nat) :
    List KeyEvent :=
  k.queue ++ (batches.take n).flatten

def NoneHeld (k : Keypad) (batches : List (List KeyEvent)) (n : Nat) : Prop :=
  ∀ key, k.snapshot.heldAfter (k.eventsUpTo batches n) key = false

instance (k : Keypad) (batches : List (List KeyEvent)) (n : Nat) :
    Decidable (k.NoneHeld batches n) :=
  inferInstanceAs (Decidable (∀ _, _ = false))

structure FirstHeld (k : Keypad) (batches : List (List KeyEvent)) (n : Nat) :
    Prop where
  within : n ≤ batches.length
  held : ¬ k.NoneHeld batches n
  before : ∀ j < n, k.NoneHeld batches j

/-- A wait that consumes `n` batches and leaves the others, with all events up
to there applied. -/
structure EndsAfter (k : Keypad) (batches : List (List KeyEvent)) (n : Nat) :
    Prop where
  arrivals : (k.wait batches).arrivals = batches.drop n
  queue : (k.wait batches).keypad.queue = []
  isHeld (key : Key) : (k.wait batches).keypad.snapshot.isHeld key =
    k.snapshot.heldAfter (k.eventsUpTo batches n) key
  last : (k.wait batches).keypad.snapshot.last =
    k.snapshot.lastAfter (k.eventsUpTo batches n)

variable {k : Keypad} {batches : List (List KeyEvent)} {n : Nat}

theorem noneHeld_iff :
    k.NoneHeld batches n ↔ (k.afterBatches batches n).chosen? = none := by
  rw [Snapshot.chosen?_eq_none_iff]
  exact forall_congr' fun key => by
    rw [← Snapshot.isHeld_foldl_apply]
    rfl

theorem endsAfter_of_keypad
    (harrivals : (k.wait batches).arrivals = batches.drop n)
    (hkeypad : (k.wait batches).keypad =
      (k.enqueue (batches.take n).flatten).poll) :
    k.EndsAfter batches n where
  arrivals := harrivals
  queue := by rw [hkeypad]; rfl
  isHeld key := by rw [hkeypad]; exact Snapshot.isHeld_foldl_apply _ _ key
  last := by rw [hkeypad]; exact Snapshot.last_foldl_apply _ _

theorem wait_of_firstHeld (h : k.FirstHeld batches n) :
    k.EndsAfter batches n ∧
      ∃ key, (k.wait batches).key? = some key ∧
        (k.wait batches).keypad.snapshot.Takes key := by
  obtain ⟨j, hj, hwait, hbefore, hlast⟩ := k.wait_spec batches
  -- both are the first poll that sees a key held
  have hjn : j = n := by
    rcases Nat.lt_trichotomy j n with hlt | heq | hgt
    · have hend := hlast (noneHeld_iff.mp (h.before j hlt))
      have := h.within
      omega
    · exact heq
    · exact absurd (noneHeld_iff.mpr (hbefore n hgt)) h.held
  subst hjn
  refine ⟨endsAfter_of_keypad (by rw [hwait]) (by rw [hwait]), ?_⟩
  obtain ⟨key, hkey⟩ :=
    Option.ne_none_iff_exists'.mp (h.held ∘ noneHeld_iff.mpr)
  exact ⟨key, by rw [hwait]; exact hkey,
    by rw [hwait]; exact Snapshot.takes_of_chosen? hkey⟩

theorem wait_of_noneHeld (h : ∀ n ≤ batches.length, k.NoneHeld batches n) :
    (k.wait batches).key? = none ∧ k.EndsAfter batches batches.length := by
  obtain ⟨j, hj, hwait, -, hlast⟩ := k.wait_spec batches
  have hnone := noneHeld_iff.mp (h j hj)
  obtain rfl := hlast hnone
  exact ⟨by rw [hwait]; exact hnone,
    endsAfter_of_keypad (by rw [hwait]) (by rw [hwait])⟩

/-- A batch at whose end no key is down that it pressed does not end a wait. -/
theorem not_firstHeld_succ {batch : List KeyEvent}
    (hbatch : batches[n]? = some batch)
    (hup : ∀ key, Snapshot.lastIsPress batch key = false) :
    ¬ k.FirstHeld batches (n + 1) := by
  intro h
  refine h.held fun key => ?_
  have hevents :
      k.eventsUpTo batches (n + 1) = k.eventsUpTo batches n ++ batch := by
    rw [eventsUpTo, eventsUpTo, List.take_add_one, hbatch]
    simp
  rw [hevents]
  exact k.snapshot.heldAfter_append_of_not_press (hup key)
    (h.before n (Nat.lt_succ_self n) key)

end Keypad

theorem Instruction.ofWord?_waitKey {w : Word} {x : Register}
    (h : w.toNat = 0xF00A + 0x100 * x.val) :
    ofWord? w = some (.waitKey x) := by
  obtain rfl : w = UInt16.ofNat (0xF00A + 0x100 * x.val) := by
    rw [← h, UInt16.ofNat_toNat]
  clear h
  revert x
  decide

namespace Machine

variable {ρ δ : Type}

/-! ## The tick -/

section Idle

variable [Devices δ]

def idleTick (m : Machine ρ δ) : Machine ρ δ :=
  { m with core := m.fetched }.finishTick

theorem frameWorks_with (n : Nat) (m : Machine ρ δ) (v : Vector UInt8 16)
    (keypad : Keypad) (arrivals : List (List KeyEvent)) (events : List Event) :
    frameWorks n { m with
        core := { m.core with
          registers := { m.core.registers with v }
          keypad, arrivals, events } } =
      { frameWorks n m with
        core := { (frameWorks n m).core with
          registers := { (frameWorks n m).core.registers with v }
          keypad, arrivals, events } } := by
  induction n generalizing m with
  | zero => rfl
  | succ n ih =>
      have hwork : frameWork { m with
            core := { m.core with
              registers := { m.core.registers with v }
              keypad, arrivals, events } } =
          { m.frameWork with
            core := { m.frameWork.core with
              registers := { m.frameWork.core.registers with v }
              keypad, arrivals, events } } := by
        rw [frameWork_eq, frameWork_eq]
        rfl
      rw [frameWorks, hwork, ih, frameWorks]

theorem finishTick_with (m : Machine ρ δ) (v : Vector UInt8 16)
    (keypad : Keypad) (arrivals : List (List KeyEvent)) (events : List Event) :
    finishTick { m with
        core := { m.core with
          registers := { m.core.registers with v }
          keypad, arrivals, events } } =
      { m.finishTick with
        core := { m.finishTick.core with
          registers := { m.finishTick.core.registers with v }
          keypad, arrivals, events } } :=
  frameWorks_with m.framesDue
    (({ m with divider := m.divider.advance 1 } : Machine ρ δ).mapRegisters
      fun r => { r with cycles := r.cycles + 1 }) v keypad arrivals events

theorem idleTick_v (m : Machine ρ δ) :
    m.idleTick.core.registers.v = m.core.registers.v := by
  obtain ⟨_, hf⟩ := m.fetched_core
  obtain ⟨_, -, hfinish⟩ :=
    finishTick_eq_framesDue { m with core := m.fetched }
  rw [idleTick, hfinish, Core.endFrame_iterate, hf]
  rfl

end Idle

theorem withOutcome_of_untraced {m : Machine ρ δ} {i : Instruction}
    (hi : m.instruction? = some i) (hoff : m.trace.on = false) (c : Core ρ) :
    m.withOutcome c = { m with core := c } := by
  have htrace :
      m.trace.note m.core.registers.pc m.fetch.1 i m.fetched.registers =
        m.trace :=
    if_neg (by simp [hoff])
  rw [withOutcome, hi]
  simp only [htrace]

variable [RandomSource ρ] [Devices δ] {m : Machine ρ δ}

theorem step_of_loadReg_self {y : Register}
    (hi : m.instruction? = some (.loadReg y y)) (hoff : m.trace.on = false) :
    m.step = .done (some (.loadReg y y)) m.idleTick := by
  have hset : m.fetched.set y (m.fetched.get y) = m.fetched := by
    have hv : m.fetched.registers.v.set y (m.fetched.registers.v[y]) =
        m.fetched.registers.v :=
      Vector.set_getElem_self y.isLt
    rw [Core.set, Core.mapRegisters, Registers.set, Core.get, Registers.get,
      hv]
  have ho : m.outcome = .done m.fetched := by
    rw [outcome, hi]
    exact congrArg Outcome.done hset
  rw [step_eq, ho, hi]
  exact congrArg (Tick.done _ ·.finishTick)
    (withOutcome_of_untraced hi hoff m.fetched)

section WaitKey

variable {x : Register}

omit [Devices δ] in
theorem outcome_waitKey (hi : m.instruction? = some (.waitKey x)) :
    m.outcome =
      match (m.core.keypad.poll.wait m.core.arrivals).key? with
      | some key => .done ((m.fetched.waited x).set x (UInt8.ofNat key.val))
      | none => .stalled (m.fetched.waited x) := by
  rw [outcome, hi, ← fetched_keypad, ← fetched_arrivals]
  exact m.fetched.waitKey_eq x

omit [RandomSource ρ] [Devices δ] in
theorem waited_fetched (m : Machine ρ δ) (x : Register) :
    ∃ events, m.fetched.waited x =
      { m.fetched with
        keypad := (m.core.keypad.poll.wait m.core.arrivals).keypad
        arrivals := (m.core.keypad.poll.wait m.core.arrivals).arrivals
        events } := by
  rw [← fetched_keypad, ← fetched_arrivals]
  exact ⟨_, rfl⟩

theorem step_of_key (hi : m.instruction? = some (.waitKey x))
    (hoff : m.trace.on = false) {key : Key}
    (hkey : (m.core.keypad.poll.wait m.core.arrivals).key? = some key) :
    ∃ events, m.step = .done (some (.waitKey x))
      { m.idleTick with
        core := { m.idleTick.core with
          registers := m.idleTick.core.registers.set x (UInt8.ofNat key.val)
          keypad := (m.core.keypad.poll.wait m.core.arrivals).keypad
          arrivals := (m.core.keypad.poll.wait m.core.arrivals).arrivals
          events } } := by
  obtain ⟨events, hwaited⟩ := m.waited_fetched x
  have ho := outcome_waitKey hi
  rw [hkey, hwaited] at ho
  refine ⟨events, ?_⟩
  have hv : m.idleTick.core.registers.v = m.fetched.registers.v := by
    obtain ⟨_, hf⟩ := m.fetched_core
    rw [idleTick_v, hf]
  rw [step_eq, ho, hi, Registers.set, hv]
  simp only [withOutcome_of_untraced hi hoff]
  exact congrArg (Tick.done _)
    (finishTick_with { m with core := m.fetched } _ _ _ events)

theorem step_of_no_key (hi : m.instruction? = some (.waitKey x))
    (hoff : m.trace.on = false)
    (hkey : (m.core.keypad.poll.wait m.core.arrivals).key? = none) :
    ∃ events, m.step = .stalled
      { m with
        core := { m.core with
          registers := { m.core.registers with
            pc := (m.core.registers.pc + 2) % 65536 }
          memory := { m.core.memory with faults := m.fetchReads.faults }
          keypad := (m.core.keypad.poll.wait m.core.arrivals).keypad
          arrivals := (m.core.keypad.poll.wait m.core.arrivals).arrivals
          events } } := by
  obtain ⟨events, hwaited⟩ := m.waited_fetched x
  obtain ⟨_, hf⟩ := m.fetched_core
  have ho := outcome_waitKey hi
  rw [hkey, hwaited, hf] at ho
  refine ⟨events, ?_⟩
  rw [step_eq, ho]
  exact congrArg Tick.stalled (withOutcome_of_untraced hi hoff _)

end WaitKey

/-- A wait consumes the batches up to the first poll that sees a key held and
takes the key that this poll says; a batch that leaves up what it pressed does
not end it. The tick of a wait that took a key is that of an instruction that
does nothing, but for the register and for the keypad; a wait in vain breaks
its tick off after the fetch. -/
theorem waits_for_first_held :
    (∀ (k : Keypad) (batches : List (List KeyEvent)),
      (∀ n, k.FirstHeld batches n →
        k.EndsAfter batches n ∧
          ∃ key, (k.wait batches).key? = some key ∧
            (k.wait batches).keypad.snapshot.Takes key) ∧
      ((∀ n ≤ batches.length, k.NoneHeld batches n) →
        (k.wait batches).key? = none ∧ k.EndsAfter batches batches.length) ∧
      ∀ n batch, batches[n]? = some batch →
        (∀ key, Snapshot.lastIsPress batch key = false) →
          ¬ k.FirstHeld batches (n + 1)) ∧
    ∀ m : Machine ρ δ, m.trace.on = false →
      (∀ y, m.instruction? = some (.loadReg y y) →
        m.step = .done (some (.loadReg y y)) m.idleTick) ∧
      ∀ x : Register, m.fetch.1.toNat = 0xF00A + 0x100 * x.val →
        (∀ key, (m.core.keypad.poll.wait m.core.arrivals).key? = some key →
          ∃ events, m.step = .done (some (.waitKey x))
            { m.idleTick with
              core := { m.idleTick.core with
                registers :=
                  m.idleTick.core.registers.set x (UInt8.ofNat key.val)
                keypad := (m.core.keypad.poll.wait m.core.arrivals).keypad
                arrivals := (m.core.keypad.poll.wait m.core.arrivals).arrivals
                events } }) ∧
        ((m.core.keypad.poll.wait m.core.arrivals).key? = none →
          ∃ events, m.step = .stalled
            { m with
              core := { m.core with
                registers := { m.core.registers with
                  pc := (m.core.registers.pc + 2) % 65536 }
                memory := { m.core.memory with faults := m.fetchReads.faults }
                keypad := (m.core.keypad.poll.wait m.core.arrivals).keypad
                arrivals := (m.core.keypad.poll.wait m.core.arrivals).arrivals
                events } }) := by
  refine ⟨?_, ?_⟩
  · intro k batches
    exact ⟨fun n => Keypad.wait_of_firstHeld, Keypad.wait_of_noneHeld,
      fun n batch => Keypad.not_firstHeld_succ⟩
  · intro m hoff
    refine ⟨fun y hi => step_of_loadReg_self hi hoff, fun x hword => ?_⟩
    have hi : m.instruction? = some (.waitKey x) :=
      Instruction.ofWord?_waitKey hword
    exact ⟨fun key => step_of_key hi hoff, step_of_no_key hi hoff⟩

/-- A key that goes down and up within the first batch is missed, and of two
keys held after the second batch the lower one is taken, since the last one
pressed is up again. -/
theorem lowest_key_after_missed_press :
    let m₀ : Machine CycledBytes (List Signal) :=
      (powerOn {} ⟨[], []⟩ []).respond (.load "wait" 512 [0xF3, 0x0A])
    let missed : List KeyEvent := [⟨5, true⟩, ⟨5, false⟩]
    let seen : List KeyEvent := [⟨12, true⟩, ⟨4, true⟩, ⟨7, true⟩, ⟨7, false⟩]
    let m := m₀.respond (.expect [missed, seen, [⟨4, false⟩]])
    let k := m₀.respond (.expect [missed])
    m.core.keypad.poll.FirstHeld m.core.arrivals 2 ∧
      m.core.keypad.poll.EndsAfter m.core.arrivals 2 ∧
      ¬ m.core.keypad.poll.FirstHeld m.core.arrivals 1 ∧
      (∃ m', m.step = .done (some (.waitKey 3)) m' ∧
        m'.core.registers.get 3 = 4) ∧
      ∃ k', k.step = .stalled k' ∧ k'.core.registers.pc = 0x202 ∧
        k'.core.registers.cycles = 0 := by
  intro m₀ missed seen m k
  have hfirst : m.core.keypad.poll.FirstHeld m.core.arrivals 2 :=
    ⟨by decide, by decide +kernel, by decide +kernel⟩
  have hkeypad :=
    (waits_for_first_held (ρ := CycledBytes) (δ := List Signal)).1
  have hmissed : ¬ m.core.keypad.poll.FirstHeld m.core.arrivals 1 :=
    (hkeypad _ _).2.2 0 missed rfl (by decide)
  have hvain : (k.core.keypad.poll.wait k.core.arrivals).key? = none :=
    ((hkeypad _ _).2.1 (by decide +kernel)).1
  have hleft : (k.core.registers.pc + 2) % 65536 = 0x202 ∧
      k.core.registers.cycles = 0 := by
    decide +kernel
  obtain ⟨_, htaken⟩ :=
    ((waits_for_first_held.2 m rfl).2 3 (by decide +kernel)).1 4
    (by decide +kernel)
  obtain ⟨_, hbroken⟩ :=
    ((waits_for_first_held.2 k rfl).2 3 (by decide +kernel)).2 hvain
  refine ⟨hfirst, ((hkeypad _ _).1 2 hfirst).1, hmissed, ⟨_, htaken, ?_⟩, _,
    hbroken, hleft⟩
  exact (Registers.get_set _ 3 3 _).trans (if_pos rfl)

end Machine

end Chip8
