import Chip8.Proofs.Accesses
import Chip8.Proofs.RunPace
import Mathlib.Algebra.Order.Floor.Div

/-!
# A program counter outside memory

A jump with an offset, or running past the last word, can take the program
counter out of memory. Nothing stops the machine there. Every word outside
reads as zero, which calls host code, and such calls are ignored: so a tick out
there records two faults, moves the program counter on by two, and does the
frame work if it is due (`Machine.core_of_step_outside`).

`Machine.Drifted m starts m'` says what has become of `m` after ticks of this
kind, from the machines `starts`; `Machine.drifted` carries it from one tick to
the next. The program counter wraps at sixteen bits, and where it wraps to is
the bottom of memory with its glyphs, at `0` or `1`. At an odd address the
second read of the last tick is at `0x10000`: addresses do not wrap.
-/

namespace Chip8

def Stimulus.OfKeys : Stimulus → Prop
  | .load _ _ _ => False
  | .press _ | .release _ | .expect _ => True

namespace FaultLog

/-- The faults after as many reads outside memory, from an address on. -/
def readFrom (l : FaultLog) (a : Int) (n : Nat) : FaultLog :=
  ((List.range n).map fun (k : Nat) => Fault.mk .read (a + k)).foldl record l

theorem readFrom_succ (l : FaultLog) (a : Int) (n : Nat) :
    l.readFrom a (n + 1) = (l.readFrom a n).record ⟨.read, a + n⟩ := by
  simp [readFrom, List.range_succ]

theorem readFrom_add (l : FaultLog) (a : Int) (n k : Nat) :
    (l.readFrom a n).readFrom (a + n) k = l.readFrom a (n + k) := by
  induction k with
  | zero => rfl
  | succ k ih =>
      have haddress : a + n + (k : Nat) = a + (n + k : Nat) := by omega
      rw [readFrom_succ, ih, haddress, ← readFrom_succ, Nat.add_assoc]

end FaultLog

/-- A core after ticks that found only zeros to execute, so many of them and
with frame work so often, but for its keys and its reports. -/
def Core.drift {ρ : Type} (c : Core ρ) (ticks frames : Nat) : Core ρ :=
  { c with
    registers := { c.registers with
      pc := (c.registers.pc + 2 * ticks) % 65536
      delay := countDown^[frames] c.registers.delay
      sound := countDown^[frames] c.registers.sound
      cycles := c.registers.cycles + ticks }
    memory := { c.memory with
      faults := c.memory.faults.readFrom c.registers.pc (2 * ticks) }
    screen := ⟨c.screen.frame, c.screen.dirty && frames == 0⟩ }

theorem Core.drift_zero {ρ : Type} {c : Core ρ} (h : c.registers.InRange) :
    c.drift 0 0 = c := by
  have hpc : (c.registers.pc + 2 * (0 : Nat)) % 65536 = c.registers.pc := by
    have := h.pc
    omega
  have hcycles : c.registers.cycles + (0 : Nat) = c.registers.cycles := by
    omega
  have hdirty : (c.screen.dirty && (0 : Nat) == 0) = c.screen.dirty :=
    Bool.and_true _
  rw [drift, hpc, hcycles, hdirty]
  rfl

/-- One stretch after another is one stretch, as long as the program counter
does not wrap in the first. -/
theorem Core.drift_drift {ρ : Type} {c : Core ρ} {ticks : Nat}
    (h₀ : 0 ≤ c.registers.pc) (h₁ : c.registers.pc + 2 * ticks ≤ 0xFFFF)
    (frames ticks' frames' : Nat) :
    (c.drift ticks frames).drift ticks' frames' = c.drift (ticks + ticks')
      (frames' + frames) := by
  have hpc : (c.registers.pc + 2 * ticks) % 65536 =
      c.registers.pc + (2 * ticks : Nat) := by
    omega
  have hpc' : (c.registers.pc + (2 * ticks : Nat) + 2 * ticks') % 65536 =
      (c.registers.pc + 2 * (ticks + ticks' : Nat)) % 65536 := by
    congr 1
    omega
  have hcycles : c.registers.cycles + ticks + ticks' =
      c.registers.cycles + (ticks + ticks' : Nat) := by omega
  have hdirty : (c.screen.dirty && frames == 0 && frames' == 0) =
      (c.screen.dirty && frames' + frames == 0) := by
    rw [Bool.and_assoc]
    congr 1
    rw [Bool.eq_iff_iff]
    simp [and_comm]
  simp only [drift, hpc, hpc', hcycles, hdirty, FaultLog.readFrom_add,
    ← Nat.mul_add, Function.iterate_add_apply]

namespace Machine

variable {ρ δ : Type}

def framesIn (m : Machine ρ δ) (n : Nat) : Nat :=
  (m.divider.elapsed n).toNat

theorem framesIn_zero {m : Machine ρ δ} (h : m.divider.InRange) :
    m.framesIn 0 = 0 := by
  obtain ⟨h₀, h₁⟩ := h
  have hq : m.divider.count / m.divider.period = 0 :=
    Int.ediv_eq_zero_of_lt h₀ h₁
  simp [framesIn, FrameDivider.elapsed, hq]

theorem framesIn_succ {m k : Machine ρ δ} (h : m.divider.InRange) {n : Nat}
    (hk : k.divider = m.divider.advance n) :
    m.framesIn (n + 1) = k.framesDue + m.framesIn n := by
  have hadd := m.divider.elapsed_add n 1
  have hn := FrameDivider.elapsed_nonneg h n
  have hone := FrameDivider.elapsed_nonneg (m.divider.advance_inRange n) 1
  simp only [framesIn, framesDue, hk, Nat.cast_add, Nat.cast_one] at hone ⊢
  omega

theorem respondAll_of_keys (m : Machine ρ δ) {batch : List Stimulus}
    (h : ∀ s ∈ batch, s.OfKeys) :
    ∃ keypad arrivals, m.respondAll batch =
      { m with core := { m.core with keypad, arrivals } } := by
  unfold respondAll
  refine List.foldlRecOn (motive := fun k : Machine ρ δ =>
    ∃ keypad arrivals, k = { m with core := { m.core with keypad, arrivals } })
    _ _ ?_ ?_
  · exact ⟨m.core.keypad, m.core.arrivals, rfl⟩
  · rintro _ ⟨keypad, arrivals, rfl⟩ s hs
    cases s with
    | load _ _ _ => exact (h _ hs).elim
    | press key => exact ⟨keypad.press key, arrivals, rfl⟩
    | release key => exact ⟨keypad.release key, arrivals, rfl⟩
    | expect batches => exact ⟨keypad, arrivals ++ batches, rfl⟩

/-! ## One tick outside memory -/

theorem fetch_outside (m : Machine ρ δ) (h : 0x1000 ≤ m.core.registers.pc) :
    m.fetch.1 = 0 := by
  have hread (c : Core ρ) {a : Int} (ha : 0x1000 ≤ a) :
      (c.readByte a).1 = 0 := by
    have hnone : Address.ofInt? a = none :=
      (Address.ofInt?_eq_none_iff a).mpr (.inr ha)
    simp only [Core.readByte, Memory.read, hnone]
  have hword : m.fetch.1 =
      Word.ofBytes (m.core.poll.readByte m.core.registers.pc).1
        ((m.core.poll.readByte m.core.registers.pc).2.readByte
          (m.core.registers.pc + 1)).1 := rfl
  rw [hword, hread _ h, hread _ (by omega)]
  rfl

theorem instruction?_outside (m : Machine ρ δ)
    (h : 0x1000 ≤ m.core.registers.pc) :
    m.instruction? = some (.system 0) := by
  rw [instruction?, m.fetch_outside h]
  rfl

theorem operation?_outside (m : Machine ρ δ)
    (h : 0x1000 ≤ m.core.registers.pc) :
    m.operation? = some .system := by
  rw [operation?, m.instruction?_outside h]
  rfl

theorem faults_fetchReads_outside (m : Machine ρ δ)
    (h : 0x1000 ≤ m.core.registers.pc) :
    m.fetchReads.faults =
      m.core.memory.faults.readFrom m.core.registers.pc 2 := by
  have hfirst : ¬ (0 ≤ m.core.registers.pc ∧ m.core.registers.pc ≤ 0xFFF) := by
    omega
  have hsecond :
      ¬ (0 ≤ m.core.registers.pc + 1 ∧ m.core.registers.pc + 1 ≤ 0xFFF) := by
        omega
  simp only [faults_fetchReads, List.foldl_cons, List.foldl_nil,
    FaultLog.note_eq, if_neg hfirst, if_neg hsecond, FaultLog.readFrom_succ]
  simp [FaultLog.readFrom]

variable [RandomSource ρ] [Devices δ]

theorem step_outside (m : Machine ρ δ) (h : 0x1000 ≤ m.core.registers.pc) :
    m.step = .done (some (.system 0)) m.next := by
  have hi := m.instruction?_outside h
  have ho : m.outcome = .done (m.fetched.ignoreSystem 0) := by
    rw [outcome, hi]
    rfl
  have hstep : m.step =
      .done (some (.system 0))
        (m.withOutcome (m.fetched.ignoreSystem 0)).finishTick := by
    rw [step_eq, ho, hi]
  rw [next, hstep]

theorem core_of_step_outside (m : Machine ρ δ)
    (h : 0x1000 ≤ m.core.registers.pc) :
    m.next.core =
      { m.core.drift 1 m.framesDue with
        keypad := m.core.keypad.poll
        events := m.next.core.events } := by
  have hidle :=
    (entitled_of_step (m.step_outside h)).idle (.inr (m.operation?_outside h))
  rw [m.faults_fetchReads_outside h] at hidle
  exact hidle

/-! ## Many ticks outside memory -/

/-- What ticks outside memory, from the machines `starts`, made of `m`. -/
structure Drifted (m : Machine ρ δ) (starts : List (Machine ρ δ))
    (m' : Machine ρ δ) :
    Prop where
  ticks : ∀ s ∈ starts, s.step = .done (some (.system 0)) s.next
  /-- General registers, index register and stack pointer, the stack, the bytes
  of memory, the picture and the random source are as they were. -/
  core : m'.core =
    { m.core.drift starts.length (m.framesIn starts.length) with
      keypad := m'.core.keypad
      arrivals := m'.core.arrivals
      events := m'.core.events }
  adds : FaultLog.Adds
    ((List.range (2 * starts.length)).map fun (k : Nat) =>
      Fault.mk .read (m.core.registers.pc + k))
    m.core.memory.faults m'.core.memory.faults
  unknownCount : m'.unknownCount = m.unknownCount
  divider : m'.divider = m.divider.advance starts.length
  devices : m'.devices =
    (starts.flatMap (·.sent)).foldl (fun d s => Devices.receive s d) m.devices
  config : m'.config = m.config
  meter : m'.meter = m.meter
  trace : m.trace.on = false → m'.trace = m.trace

omit [RandomSource ρ] [Devices δ] in
theorem adds_of_core_eq {m m' : Machine ρ δ} {ticks frames : Nat}
    (h : m'.core =
      { m.core.drift ticks frames with
        keypad := m'.core.keypad
        arrivals := m'.core.arrivals
        events := m'.core.events }) :
    FaultLog.Adds
      ((List.range (2 * ticks)).map fun (k : Nat) =>
        Fault.mk .read (m.core.registers.pc + k))
      m.core.memory.faults m'.core.memory.faults := by
  rw [h]
  exact FaultLog.adds_foldl_record _ _

theorem Drifted.pc {m m' : Machine ρ δ} {starts : List (Machine ρ δ)}
    (h : Drifted m starts m') :
    m'.core.registers.pc = (m.core.registers.pc + 2 * starts.length) % 65536 :=
  congrArg (·.registers.pc) h.core

theorem Drifted.refl {m : Machine ρ δ} (h : m.InRange) : Drifted m [] m := by
  have hcore : m.core = m.core.drift 0 (m.framesIn 0) := by
    rw [framesIn_zero h.divider, Core.drift_zero h.registers]
  exact
    { ticks := by simp
      core := hcore
      adds := adds_of_core_eq hcore
      unknownCount := rfl
      divider := (FrameDivider.advance_zero h.divider).symm
      devices := rfl
      config := rfl
      meter := rfl
      trace := fun _ => rfl }

theorem Drifted.concat {m k : Machine ρ δ} {starts : List (Machine ρ δ)}
    (h : Drifted m starts k) (hin : m.divider.InRange) {batch : List Stimulus}
    (hkeys : ∀ s ∈ batch, s.OfKeys) (hlow : 0x1000 ≤ m.core.registers.pc)
    (hhigh : m.core.registers.pc + 2 * starts.length ≤ 0xFFFF) :
    Drifted m (starts ++ [k.respondAll batch]) (k.respondAll batch).next := by
  obtain ⟨keypad, arrivals, hs⟩ := k.respondAll_of_keys hkeys
  generalize k.respondAll batch = s at hs ⊢
  have hpc :
      s.core.registers.pc = m.core.registers.pc + 2 * starts.length := by
    rw [hs, h.pc]
    omega
  have hdivider : s.divider = m.divider.advance starts.length := by
    rw [hs, h.divider]
  have hout : 0x1000 ≤ s.core.registers.pc := by omega
  have hstep := s.step_outside hout
  have hcore := s.core_of_step_outside hout
  have hentitled := entitled_of_step hstep
  have hdone := done_of_step (hdivider ▸ m.divider.advance_inRange _) hstep
  have hlength : (starts ++ [s]).length = starts.length + 1 :=
    List.length_append
  have hframes := framesIn_succ hin hdivider
  have hcore' : s.next.core =
      { m.core.drift (starts ++ [s]).length (m.framesIn (starts ++ [s]).length)
        with
        keypad := s.next.core.keypad
        arrivals := s.next.core.arrivals
        events := s.next.core.events } := by
    have hkeypad : s.next.core.keypad = s.core.keypad.poll :=
      congrArg (·.keypad) hcore
    have harrivals : s.next.core.arrivals = s.core.arrivals :=
      congrArg (·.arrivals) hcore
    have hdrift :
        (m.core.drift starts.length (m.framesIn starts.length)).drift 1
          s.framesDue =
        m.core.drift (starts.length + 1) (m.framesIn (starts.length + 1)) := by
      rw [Core.drift_drift (by omega) hhigh, hframes]
    rw [hlength, ← hdrift, hkeypad, harrivals]
    refine hcore.trans ?_
    rw [hs, h.core]
    rfl
  constructor
  case ticks =>
    intro s' hs'
    rcases List.mem_append.mp hs' with hs' | hs'
    · exact h.ticks s' hs'
    · obtain rfl := List.mem_singleton.mp hs'
      exact hstep
  case core => exact hcore'
  case adds => exact adds_of_core_eq hcore'
  case unknownCount =>
    rw [hentitled.unknownCount, if_neg (by simp [s.instruction?_outside hout]),
      hs]
    exact h.unknownCount
  case divider =>
    rw [hentitled.divider, hdivider, FrameDivider.advance_advance, hlength]
    rfl
  case devices =>
    rw [hdone.devices, List.flatMap_append, List.foldl_append, ← h.devices,
      List.flatMap_singleton, hs]
  case config => rw [hentitled.config, hs, h.config]
  case meter => rw [hentitled.meter, hs, h.meter]
  case trace =>
    intro hoff
    have hkept : s.trace = m.trace := by rw [hs, h.trace hoff]
    rw [hentitled.trace (by rw [hkept, hoff]), hkept]

/-- The ticks of a machine whose program counter is outside memory, up to the
one in which it wraps. -/
theorem drifted {m : Machine ρ δ} (h : m.InRange)
    {batches : List (List Stimulus)}
    (hkeys : ∀ batch ∈ batches, ∀ s ∈ batch, s.OfKeys)
    (hlow : 0x1000 ≤ m.core.registers.pc)
    (hhigh : m.core.registers.pc + 2 * batches.length ≤ 0x10001) :
    Drifted m (m.tickStarts batches) (m.afterTicks batches) := by
  induction batches using List.reverseRecOn with
  | nil => exact .refl h
  | append_singleton batches batch ih =>
      rw [List.length_append, List.length_singleton] at hhigh
      have hbefore :=
        ih (fun b hb => hkeys b (List.mem_append_left _ hb)) (by omega)
      rw [tickStarts_concat, afterTicks_concat]
      refine hbefore.concat h.divider (hkeys batch (by simp)) hlow ?_
      rw [length_tickStarts]
      omega

/-- Where the program counter wraps to, a word is fetched from the glyphs. -/
theorem Drifted.fetch_wrapped {m m' : Machine ρ δ}
    {starts : List (Machine ρ δ)} (h : Drifted m starts m') {a b : Address}
    (hpc : m'.core.registers.pc = a.val) (hb : b.val = a.val + 1)
    (hlow : a.val < 2) :
    m'.fetch =
      (Word.ofBytes (m.core.memory.byteAt a) (m.core.memory.byteAt b),
        { m' with core := m'.core.poll.goTo (a.val + 2) }) := by
  have hbytes : m'.core.memory.byteAt = m.core.memory.byteAt := by
    rw [h.core]
    rfl
  have hnext : Registers.wrap16 (m'.core.registers.pc + 2) = a.val + 2 := by
    rw [hpc, Registers.wrap16]
    omega
  have hfirst : Address.ofInt? m'.core.registers.pc = some a := by
    rw [hpc, Address.ofInt?_val]
  have hsecond : Address.ofInt? (m'.core.registers.pc + 1) = some b := by
    have hcast : (a.val : Int) + 1 = b.val := by omega
    rw [hpc, hcast, Address.ofInt?_val]
  rw [fetch_inside m' hfirst hsecond, hbytes, hnext]

/-- A program counter outside memory does no harm to a machine in range, as
every reachable one is. Until it wraps each tick is completed and records two
reads, one address after the other, and only timers, tick count, keys, frame
divider and devices go on. It wraps with the last of these ticks and not
before, and then a word is fetched from the glyphs. -/
theorem runaway_pc {m : Machine ρ δ} (h : m.InRange)
    (hlow : 0x1000 ≤ m.core.registers.pc)
    (hhigh : m.core.registers.pc ≤ 0xFFFF) {batches : List (List Stimulus)}
    (hkeys : ∀ batch ∈ batches, ∀ s ∈ batch, s.OfKeys)
    (hlength : batches.length ≤ (0x10000 - m.core.registers.pc).toNat ⌈/⌉ 2) :
    let m' := m.afterTicks batches
    Drifted m (m.tickStarts batches) m' ∧
      m'.core.memory.faults.count =
        m.core.memory.faults.count + 2 * batches.length ∧
      (batches.length < (0x10000 - m.core.registers.pc).toNat ⌈/⌉ 2 →
        0x1000 ≤ m'.core.registers.pc) ∧
      (batches.length = (0x10000 - m.core.registers.pc).toNat ⌈/⌉ 2 →
        m'.core.registers.pc = m.core.registers.pc % 2 ∧
        ∃ a b : Address, m'.core.registers.pc = a.val ∧ b.val = a.val + 1 ∧
          b.val < Glyph.bytes.length ∧
          m'.fetch =
            (Word.ofBytes (m.core.memory.byteAt a) (m.core.memory.byteAt b),
              { m' with core := m'.core.poll.goTo (a.val + 2) })) := by
  intro m'
  rw [Nat.ceilDiv_eq_add_pred_div] at hlength ⊢
  have hdrift : Drifted m (m.tickStarts batches) m' :=
    drifted h hkeys hlow (by omega)
  have hpc := hdrift.pc
  rw [length_tickStarts] at hpc
  refine ⟨hdrift, ?_, fun hbefore => by omega, fun hlast => ?_⟩
  · have hcount := hdrift.adds.count
    rwa [List.length_map, List.length_range, length_tickStarts] at hcount
  · have hwrapped : m'.core.registers.pc = m.core.registers.pc % 2 := by omega
    let a : Address := ⟨(m.core.registers.pc % 2).toNat, by omega⟩
    let b : Address := ⟨(m.core.registers.pc % 2).toNat + 1, by omega⟩
    have ha : a.val < 2 := by
      simp only [a]
      omega
    have hpc' : m'.core.registers.pc = a.val := by
      simp only [a]
      omega
    have hglyphs : b.val < Glyph.bytes.length :=
      Nat.lt_trans (Nat.succ_lt_succ ha) (by decide)
    exact ⟨hwrapped, a, b, hpc', rfl, hglyphs,
      hdrift.fetch_wrapped hpc' rfl ha⟩

/-- A jump to an odd address, and 30594 ticks until it is back, while a key is
used; the last fault that is shown is the one behind the last address. -/
theorem runaway_to_glyphs :
    let m₀ : Machine CycledBytes (List Signal) := powerOn {} ⟨[], []⟩ []
    let load := Stimulus.load "far" 512 [0x60, 0xFE, 0xBF, 0xFF]
    let m := (m₀.respond load).next.next
    let batches := [.press 5] :: [.release 5] :: List.replicate 30592 []
    m.Reachable ∧ m.core.registers.pc = 0x10FD ∧
      Drifted m (m.tickStarts batches) (m.afterTicks batches) ∧
      (m.afterTicks batches).core.registers.pc = 1 ∧
      (m.afterTicks batches).core.memory.faults.kept.getLast? =
        some ⟨.read, 0x10000⟩ ∧ (m.afterTicks batches).fetch.1 = 0x9090 := by
  intro m₀ load m batches
  have hrun : (m₀.respond load).completes ∧ (m₀.respond load).next.completes ∧
      m.core.registers.pc = 0x10FD ∧ m.core.memory.byteAt 1 = 0x90 ∧
      m.core.memory.byteAt 2 = 0x90 := by decide +kernel
  obtain ⟨hfirst, hsecond, hpc, hbyte₁, hbyte₂⟩ := hrun
  have hreach : m.Reachable :=
    ⟨{}, ⟨[], []⟩, [], _,
      ((Course.start.outside load).next hfirst).next hsecond⟩
  have hkeys : ∀ batch ∈ batches, ∀ s ∈ batch, s.OfKeys := by
    intro batch hbatch s hs
    rcases List.mem_cons.mp hbatch with rfl | hbatch
    · obtain rfl := List.mem_singleton.mp hs
      trivial
    rcases List.mem_cons.mp hbatch with rfl | hbatch
    · obtain rfl := List.mem_singleton.mp hs
      trivial
    · obtain rfl := List.eq_of_mem_replicate hbatch
      exact absurd hs List.not_mem_nil
  have hcount : batches.length = 30594 := by
    simp only [batches, List.length_cons, List.length_replicate]
  have hlength :
      batches.length = (0x10000 - m.core.registers.pc).toNat ⌈/⌉ 2 := by
    rw [hcount, hpc, Nat.ceilDiv_eq_add_pred_div]
    rfl
  obtain ⟨hdrift, -, -, hwrap⟩ :=
    runaway_pc hreach.inRange (by omega) (by omega) hkeys (by omega)
  obtain ⟨hpc', a, b, ha, hb, -, hfetch⟩ := hwrap hlength
  rw [hpc] at hpc'
  obtain rfl : a = 1 := Fin.ext (by omega)
  obtain rfl : b = 2 := Fin.ext hb
  have hlast := hdrift.adds.kept hreach.length_kept_le
  rw [length_tickStarts, hcount, hpc] at hlast
  refine ⟨hreach, hpc, hdrift, hpc', ?_, ?_⟩
  · rw [hlast, List.getLast?_drop, List.getLast?_append, List.getLast?_map,
      List.getLast?_range, List.length_append, List.length_map,
      List.length_range, if_neg (by omega)]
    rfl
  · rw [hfetch, hbyte₁, hbyte₂]
    rfl

end Machine

end Chip8
