import Chip8.Proofs.Entitlement
import Mathlib.Data.List.Induction

/-!
# The accesses of a tick

A tick accesses memory in a fixed order: it reads the two bytes of its word,
and then its instruction reads or writes a block from the index register on
(`Instruction.accesses`). Which of these accesses are recorded depends on their
addresses alone, so the faults after a tick follow from the accesses and the
faults before it (`Machine.faults_of_step`).

A log that some faults are recorded in counts all of them and shows the last
ones (`FaultLog.adds_foldl_record`). That supposes that it never showed more
than it keeps, as is true of every reachable machine
(`Machine.Reachable.length_kept_le`).
-/

namespace Chip8

namespace FaultLog

/-! ## Logs -/

theorem latest_foldl_record {l : FaultLog} (h : l.latest.length ≤ 256)
    (faults : List Fault) :
    (faults.foldl record l).latest =
      (faults.reverse ++ l.latest).take 256 := by
  induction faults using List.reverseRecOn with
  | nil => exact (List.take_of_length_le h).symm
  | append_singleton faults f ih =>
      rw [List.foldl_append, List.foldl_cons, List.foldl_nil, record, capacity,
        ih, List.reverse_append]
      simp [List.take_succ_cons, List.take_take]

/-- What a log knows after some more faults: all of them are counted and the
last ones kept. -/
structure Adds (faults : List Fault) (l l' : FaultLog) : Prop where
  count : l'.count = l.count + faults.length
  kept : l.kept.length ≤ 256 →
    l'.kept = (l.kept ++ faults).drop (l.kept.length + faults.length - 256)

theorem adds_foldl_record (faults : List Fault) (l : FaultLog) :
    Adds faults l (faults.foldl record l) := by
  constructor
  case count =>
    induction faults generalizing l with
    | nil => rfl
    | cons f rest ih =>
        rw [List.foldl_cons, ih, record, List.length_cons, Nat.add_assoc,
          Nat.add_comm 1]
  case kept =>
    intro h
    rw [kept, List.length_reverse] at h
    rw [kept, kept, latest_foldl_record h, List.reverse_take,
      List.reverse_append, List.reverse_reverse, List.length_append,
      List.length_reverse, List.length_reverse, Nat.add_comm faults.length]

theorem length_kept_record (l : FaultLog) (f : Fault) :
    (l.record f).kept.length ≤ 256 := by
  rw [kept, List.length_reverse]
  exact List.length_take_le _ _

/-- The faults after an access, which is recorded if it lies outside. -/
def note (l : FaultLog) (access : AccessKind × Int) : FaultLog :=
  match Memory.fault? access.1 access.2 with
  | some f => l.record f
  | none => l

theorem note_eq (l : FaultLog) (kind : AccessKind) (a : Int) :
    l.note (kind, a) = if 0 ≤ a ∧ a ≤ 0xFFF then l
      else l.record ⟨kind, a⟩ := by
  unfold note Memory.fault?
  by_cases ha : 0 ≤ a ∧ a ≤ 0xFFF
  · have hsome : Address.ofInt? a = some ⟨a.toNat, by omega⟩ :=
      dif_pos (by omega)
    simp only [hsome, if_pos ha]
  · have hnone : Address.ofInt? a = none :=
      (Address.ofInt?_eq_none_iff a).mpr (by omega)
    simp only [hnone, if_neg ha]

/-- The faults among some accesses, in order. -/
def among (accesses : List (AccessKind × Int)) : List Fault :=
  (accesses.filter fun a => a.2 < 0 ∨ 0xFFF < a.2).map fun a => ⟨a.1, a.2⟩

theorem foldl_note (accesses : List (AccessKind × Int)) (l : FaultLog) :
    accesses.foldl note l = (among accesses).foldl record l := by
  rw [among, List.foldl_map, List.foldl_filter]
  congr 1
  funext l a
  rw [note_eq]
  by_cases ha : 0 ≤ a.2 ∧ a.2 ≤ 0xFFF
  · rw [if_pos ha, if_neg (by simpa using ha)]
  · have houtside : a.2 < 0 ∨ 0xFFF < a.2 := by omega
    rw [if_neg ha, if_pos (by simpa using houtside)]

theorem length_kept_note {l : FaultLog} (h : l.kept.length ≤ 256)
    (access : AccessKind × Int) : (l.note access).kept.length ≤ 256 := by
  rw [note_eq]
  split
  · exact h
  · exact l.length_kept_record _

end FaultLog

theorem Memory.faults_read (m : Memory) (a : Int) :
    (m.read a).2.faults = m.faults.note (.read, a) := by
  unfold read FaultLog.note fault?
  dsimp only
  split <;> rfl

theorem Memory.faults_write (m : Memory) (a : Int) (b : UInt8) :
    (m.write a b).faults = m.faults.note (.write, a) := by
  unfold write FaultLog.note fault?
  dsimp only
  split <;> rfl

/-- The accesses of an instruction beyond the fetch, in order. -/
def Instruction.accesses (index : Int) : Instruction → List (AccessKind × Int)
  | storeDecimal _ => (List.range 3).map fun (k : Nat) => (.write, index + k)
  | storeRegs x => (Core.registersUpTo x).map fun r => (.write, index + r.val)
  | loadRegs x => (Core.registersUpTo x).map fun r => (.read, index + r.val)
  | draw _ _ n => (List.range n.val).map fun (k : Nat) => (.read, index + k)
  | _ => []

theorem Instruction.accesses_eq_nil {i : Instruction}
    (h : i.operation ∉ Operation.accessing) (index : Int) :
    i.accesses index = [] := by
  cases i with
  | storeDecimal _ | storeRegs _ | loadRegs _ | draw _ _ _ =>
      exact absurd (by simp [Operation.accessing, operation]) h
  | _ => rfl

namespace Core

variable {ρ : Type}

theorem faults_readByte (c : Core ρ) (a : Int) :
    (c.readByte a).2.memory.faults = c.memory.faults.note (.read, a) := by
  obtain ⟨_, h⟩ :=
    reportFault_eq { c with memory := (c.memory.read a).2 } .read a
  exact (congrArg (·.memory.faults) h).trans (c.memory.faults_read a)

theorem faults_writeByte (c : Core ρ) (a : Int) (b : UInt8) :
    (c.writeByte a b).memory.faults = c.memory.faults.note (.write, a) := by
  rw [memory_writeByte, Memory.faults_write]

/-- What a loop records that makes one access a turn, relative to the index
register. -/
theorem faults_foldl {α : Type} {f : Core ρ → α → Core ρ} {kind : AccessKind}
    {place : α → Nat}
    (hf : ∀ c a, (f c a).registers.index = c.registers.index ∧
      (f c a).memory.faults =
        c.memory.faults.note (kind, c.registers.index + place a))
    (c : Core ρ) (xs : List α) :
    (xs.foldl f c).memory.faults =
      (xs.map fun a => (kind, c.registers.index + (place a : Int))).foldl
        FaultLog.note c.memory.faults := by
  induction xs generalizing c with
  | nil => rfl
  | cons a rest ih =>
      rw [List.foldl_cons, ih, (hf c a).1, (hf c a).2]
      rfl

theorem faults_storeDecimal (c : Core ρ) (x : Register) :
    (c.storeDecimal x).memory.faults =
      ((Instruction.storeDecimal x).accesses c.registers.index).foldl
        FaultLog.note c.memory.faults := by
  rw [storeDecimal, faults_writeByte, faults_writeByte, faults_writeByte]
  rfl

theorem faults_storeRegs (c : Core ρ) (x : Register) :
    (c.storeRegs x).memory.faults =
      ((Instruction.storeRegs x).accesses c.registers.index).foldl
        FaultLog.note c.memory.faults := by
  have hturn (d : Core ρ) (r : Register) :
      (d.writeByte (d.indexed r.val) (d.get r)).registers.index =
        d.registers.index ∧
        (d.writeByte (d.indexed r.val) (d.get r)).memory.faults =
          d.memory.faults.note (.write, d.registers.index + r.val) := by
    obtain ⟨_, _, h⟩ := d.writeByte_eq (d.indexed r.val) (d.get r)
    exact ⟨by rw [h], faults_writeByte d _ _⟩
  exact faults_foldl hturn c (registersUpTo x)

theorem faults_loadRegs (c : Core ρ) (x : Register) :
    (c.loadRegs x).memory.faults =
      ((Instruction.loadRegs x).accesses c.registers.index).foldl FaultLog.note
        c.memory.faults := by
  have hturn (d : Core ρ) (r : Register) :
      (d.loadReg r).registers.index = d.registers.index ∧
        (d.loadReg r).memory.faults =
          d.memory.faults.note (.read, d.registers.index + r.val) := by
    obtain ⟨_, _, _, h⟩ := d.loadReg_eq r
    exact ⟨by rw [h], faults_readByte d _⟩
  exact faults_foldl hturn c (registersUpTo x)

theorem faults_draw (c : Core ρ) (vx vy : UInt8) (x y : Register)
    (n : Nibble) :
    (c.draw vx vy n).memory.faults =
      ((Instruction.draw x y n).accesses c.registers.index).foldl FaultLog.note
        c.memory.faults := by
  have hturn (d : Core ρ) (r : Nat) :
      (d.readByte (d.indexed r)).2.registers.index = d.registers.index ∧
        (d.readByte (d.indexed r)).2.memory.faults =
          d.memory.faults.note (.read, d.registers.index + r) := by
    obtain ⟨_, _, h⟩ := d.readByte_snd (d.indexed r)
    exact ⟨by rw [h], faults_readByte d _⟩
  -- the picture goes along, but has no part in the accesses
  have hcore :
      ((List.range n.val).foldl (drawRow vx vy)
        (c, ⟨c.screen.frame, false⟩)).1 =
      (List.range n.val).foldl (fun d r => (d.readByte (d.indexed r)).2) c :=
    (List.foldl_hom Prod.fst fun _ _ => rfl).symm
  have hfaults := faults_foldl hturn c (List.range n.val)
  rw [← hcore] at hfaults
  exact hfaults

/-- What an instruction records follows from its accesses. -/
theorem faults_of_accesses [RandomSource ρ] {shiftUsesVy : Bool}
    {i : Instruction} {c c' : Core ρ}
    (h : c.execute shiftUsesVy i = .done c') :
    c'.memory.faults =
      (i.accesses c.registers.index).foldl FaultLog.note c.memory.faults := by
  by_cases hi : i.operation ∈ Operation.accessing
  · cases i with
    | storeDecimal x =>
        cases h
        exact c.faults_storeDecimal x
    | storeRegs x =>
        cases h
        exact c.faults_storeRegs x
    | loadRegs x =>
        cases h
        exact c.faults_loadRegs x
    | draw x y n =>
        cases h
        exact c.faults_draw _ _ x y n
    | _ =>
      exact absurd hi (by simp [Operation.accessing, Instruction.operation])
  · rw [Instruction.accesses_eq_nil hi, faults_of_execute h hi]
    rfl

end Core

namespace Machine

variable {ρ δ : Type}

def accesses (m : Machine ρ δ) : List (AccessKind × Int) :=
  (.read, m.core.registers.pc) :: (.read, m.core.registers.pc + 1) ::
    match m.instruction? with
    | some i => i.accesses m.core.registers.index
    | none => []

theorem faults_fetchReads (m : Machine ρ δ) :
    m.fetchReads.faults =
      [(.read, m.core.registers.pc), (.read, m.core.registers.pc + 1)].foldl
        FaultLog.note m.core.memory.faults := by
  rw [fetchReads, Memory.faults_read, Memory.faults_read]
  rfl

variable [RandomSource ρ]

theorem faults_afterInstruction {m : Machine ρ δ}
    (ho : m.outcome = .done m.afterInstruction) :
    m.afterInstruction.memory.faults =
      m.accesses.foldl FaultLog.note m.core.memory.faults := by
  obtain ⟨_, hf⟩ := m.fetched_core
  have hfetched : m.fetched.memory.faults = m.fetchReads.faults := by
    rw [fetched_memory]
  have hindex : m.fetched.registers.index = m.core.registers.index := by
    rw [hf]
  unfold accesses
  cases hi : m.instruction? with
  | none =>
      rw [afterInstruction_of_none hi]
      exact hfetched.trans m.faults_fetchReads
  | some i =>
      have hinstruction := Core.faults_of_accesses (execute_of_outcome ho hi)
      rw [hinstruction, hfetched, hindex, faults_fetchReads]
      rfl

variable [Devices δ]

/-- The faults after a completed tick are those of its accesses, in order. -/
theorem faults_of_step {m m' : Machine ρ δ} {i? : Option Instruction}
    (h : m.step = .done i? m') :
    m'.core.memory.faults =
      m.accesses.foldl FaultLog.note m.core.memory.faults := by
  have ho := (step_eq_done_iff.mp h).1
  rw [core_of_step h, Core.endFrame_iterate]
  exact faults_afterInstruction ho

omit [RandomSource ρ] [Devices δ] in
theorem length_kept_respond {m : Machine ρ δ}
    (h : m.core.memory.faults.kept.length ≤ 256) (s : Stimulus) :
    (m.respond s).core.memory.faults.kept.length ≤ 256 := by
  cases s with
  | load name base data =>
      rw [respond, memory_load]
      generalize m.core.memory = memory at h
      induction data generalizing memory base with
      | nil => exact h
      | cons b rest ih =>
          rw [Memory.load_cons]
          refine ih _ _ ?_
          rw [Memory.faults_write]
          exact FaultLog.length_kept_note h _
  | _ => exact h

/-- No log shows more faults than it keeps. -/
theorem Reachable.length_kept_le {m : Machine ρ δ} (h : m.Reachable) :
    m.core.memory.faults.kept.length ≤ 256 := by
  obtain ⟨config, random, devices, ms, hc⟩ := h
  induction hc with
  | start => exact Nat.zero_le _
  | outside s _ ih => exact length_kept_respond ih s
  | tick _ hstep ih =>
      rw [faults_of_step hstep]
      exact List.foldlRecOn (motive := fun l : FaultLog => l.kept.length ≤ 256)
        _ _ ih fun _ hl access _ => FaultLog.length_kept_note hl access

end Machine

end Chip8
