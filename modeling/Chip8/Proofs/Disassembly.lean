import Chip8.Proofs.Entitlement
import Chip8.Proofs.ListingItems

/-!
# A listing agrees with the processor

A listing cuts its input into words, a machine fetches them from memory through
its program counter. Where the two bytes of an item are in memory and the
program counter is at them, the next tick deals with the item
(`Machine.DealsWith`): it decodes what the listing shows, executes it, and
skips just the words that the listing marks as data.

A program that fits is in memory once it is loaded (`Memory.shows_load`), and
each of its words at an even distance has an item; so the agreement is one
about every program.
-/

namespace Chip8

theorem Address.exists_ofInt? {z : Int} (h : 0 ≤ z ∧ z < 4096) :
    ∃ a : Address, ofInt? z = some a ∧ (a.val : Int) = z :=
  ⟨⟨z.toNat, by omega⟩, dif_pos h, Int.toNat_of_nonneg h.1⟩

theorem Operation.mnemonic_ne_dataWord (o : Operation) :
    o.mnemonic ≠ "DW" := by
  cases o <;> decide

namespace Listing

variable {item : Item} {i : Instruction}

theorem Item.mnemonic_of_instruction (h : item.instruction? = some i) :
    item.mnemonic = i.mnemonic := by
  have hchunk : item.chunk.instruction? = some i := h
  simp only [Item.mnemonic, Chunk.mnemonic, hchunk]

theorem Item.operands_of_instruction (h : item.instruction? = some i) :
    item.operands = i.operands := by
  have hchunk : item.chunk.instruction? = some i := h
  simp only [Item.operands, Chunk.operands, hchunk]

theorem Item.assembly_of_instruction (h : item.instruction? = some i) :
    item.assembly = i.text := by
  rw [Item.assembly, Item.mnemonic_of_instruction h,
    Item.operands_of_instruction h, Instruction.text]

theorem Item.mnemonic_eq_dataWord_iff (hlength : item.length = 2) :
    item.mnemonic = "DW" ↔ item.instruction? = none := by
  obtain ⟨high, low, hchunk⟩ := item.length_eq_two_iff.mp hlength
  cases hi : item.instruction? with
  | some i =>
      rw [Item.mnemonic_of_instruction hi]
      exact iff_of_false i.operation.mnemonic_ne_dataWord nofun
  | none =>
      have hnone : (Chunk.word high low).instruction? = none := hchunk ▸ hi
      simp only [Item.mnemonic, hchunk, Chunk.mnemonic, hnone]

end Listing

namespace Memory

def Shows (m : Memory) (base : Int) (data : List UInt8) (a : Int) : Prop :=
  data[(a - base).toNat]? = some (m.read a).1

instance (m : Memory) (base : Int) (data : List UInt8) (a : Int) :
    Decidable (m.Shows base data a) :=
  inferInstanceAs (Decidable (data[(a - base).toNat]? = some (m.read a).1))

theorem shows_load (m : Memory) (base : Int) (data : List UInt8) {k : Nat}
    (hbase : 0 ≤ base) (hk : k < data.length)
    (hend : base + data.length ≤ 4096) :
    (m.load base data).Shows base data (base + k) := by
  obtain ⟨a, ha, haval⟩ := Address.exists_ofInt? (z := base + k) (by omega)
  have hoffset : (base + k - base).toNat = k := by omega
  have habove : ¬ (a.val : Int) < base := by omega
  rw [Shows, read_inside _ ha, byteAt_load, if_neg habove, haval, hoffset,
    List.getElem?_eq_getElem hk, Option.getD_some]

end Memory

namespace Machine

open Listing

variable {ρ δ : Type} [RandomSource ρ] [Devices δ]

/-- A tick from `m` to `m'` counted an unknown word and executed nothing. -/
structure Skipped (m m' : Machine ρ δ) : Prop where
  unknownCount : m'.unknownCount = m.unknownCount + 1
  trace : m'.trace = m.trace
  /-- What happens at every tick: keys are polled, the program counter goes on,
  and at a frame boundary the timers count down and the screen is shown. -/
  core : m'.core =
    { m.core with
      registers := { m.core.registers with
        pc := m.core.registers.pc + 2
        delay := countDown^[m.framesDue] m.core.registers.delay
        sound := countDown^[m.framesDue] m.core.registers.sound
        cycles := m.core.registers.cycles + 1 }
      screen := ⟨m.core.screen.frame, m.core.screen.dirty && m.framesDue == 0⟩
      keypad := m.core.keypad.poll
      events := m'.core.events }

/-- The next tick of a machine does what an item of a listing shows. -/
structure DealsWith (m : Machine ρ δ) (item : Item) : Prop where
  decodes : m.instruction? = item.instruction?
  shown (i : Instruction) : m.instruction? = some i →
    item.mnemonic = i.mnemonic ∧ item.operands = i.operands ∧
      item.assembly = i.text
  executes (i : Instruction) : item.instruction? = some i →
    m.step =
      match m.fetched.execute m.config.shiftUsesVy i with
      | .done c => .done (some i) (m.withOutcome c).finishTick
      | .stalled c => .stalled (m.withOutcome c)
      | .unfit c => .unfit (m.withOutcome c)
  returns (i? : Option Instruction) (m' : Machine ρ δ) : m.step = .done i? m' →
    i? = item.instruction?
  skips : item.mnemonic = "DW" → ∃ m', m.step = .done none m' ∧ Skipped m m'
  skips_only : (∃ m', m.step = .done none m') → item.mnemonic = "DW"

section Fetch

omit [RandomSource ρ] [Devices δ]

variable {m : Machine ρ δ}

theorem fetchReads_inside
    (hpc : 0 ≤ m.core.registers.pc ∧ m.core.registers.pc + 1 < 4096) :
    m.fetchReads = m.core.memory := by
  obtain ⟨_, hfirst, -⟩ :=
    Address.exists_ofInt? (z := m.core.registers.pc) (by omega)
  obtain ⟨_, hsecond, -⟩ :=
    Address.exists_ofInt? (z := m.core.registers.pc + 1) (by omega)
  rw [fetchReads, Memory.read_inside _ hfirst, Memory.read_inside _ hsecond]

/-- Inside memory the bytes of a program are decoded where they are shown. -/
theorem instruction?_of_shows
    (hpc : 0 ≤ m.core.registers.pc ∧ m.core.registers.pc + 1 < 4096)
    {base : Int} {data : List UInt8} {high low : UInt8}
    (hhigh : m.core.memory.Shows base data m.core.registers.pc)
    (hlow : m.core.memory.Shows base data (m.core.registers.pc + 1))
    (hfirst : data[(m.core.registers.pc - base).toNat]? = some high)
    (hsecond : data[(m.core.registers.pc + 1 - base).toNat]? = some low) :
    m.instruction? = Instruction.ofWord? (Word.ofBytes high low) := by
  obtain ⟨_, ha, -⟩ :=
    Address.exists_ofInt? (z := m.core.registers.pc) (by omega)
  obtain ⟨_, hb, -⟩ :=
    Address.exists_ofInt? (z := m.core.registers.pc + 1) (by omega)
  rw [Memory.Shows, hfirst, Memory.read_inside _ ha] at hhigh
  rw [Memory.Shows, hsecond, Memory.read_inside _ hb] at hlow
  obtain rfl := Option.some.inj hhigh
  obtain rfl := Option.some.inj hlow
  rw [instruction?, fetch_inside m ha hb]

end Fetch

theorem skipped_of_none {m : Machine ρ δ}
    (hpc : 0 ≤ m.core.registers.pc ∧ m.core.registers.pc + 1 < 4096)
    (hi : m.instruction? = none) :
    ∃ m', m.step = .done none m' ∧ Skipped m m' := by
  have ho : m.outcome = .done m.afterInstruction := by
    rw [afterInstruction, outcome, hi]
    rfl
  have hstep :
      m.step = .done none (m.withOutcome m.afterInstruction).finishTick :=
    step_eq_done_iff.mpr ⟨ho, hi.symm, rfl⟩
  have hentitled := entitled_of_step hstep
  obtain ⟨devices, -, hfinish⟩ :=
    finishTick_eq_framesDue (m.withOutcome m.afterInstruction)
  refine ⟨_, hstep, ⟨?_, ?_, ?_⟩⟩
  · rw [hentitled.unknownCount, if_pos hi]
  · rw [hfinish, withOutcome, hi]
  · have hidle := hentitled.idle (.inl (by rw [operation?, hi]; rfl))
    have hwrap : (m.core.registers.pc + 2) % 65536 = m.core.registers.pc + 2 :=
      Int.emod_eq_of_lt (by omega) (by omega)
    rw [fetchReads_inside hpc, hwrap] at hidle
    exact hidle

theorem dealsWith_of_decodes {m : Machine ρ δ} {item : Item}
    (hpc : 0 ≤ m.core.registers.pc ∧ m.core.registers.pc + 1 < 4096)
    (hlength : item.length = 2)
    (hdecodes : m.instruction? = item.instruction?) :
    m.DealsWith item where
  decodes := hdecodes
  shown i hi := by
    rw [hdecodes] at hi
    exact ⟨Item.mnemonic_of_instruction hi, Item.operands_of_instruction hi,
      Item.assembly_of_instruction hi⟩
  executes i hi := by
    have ho : m.outcome = m.fetched.execute m.config.shiftUsesVy i := by
      rw [outcome, hdecodes, hi]
    have hstep := m.step_eq
    rw [ho, hdecodes, hi] at hstep
    exact hstep
  returns i? m' hstep := (step_eq_done_iff.mp hstep).2.1.trans hdecodes
  skips hdata := by
    have hnone := (Item.mnemonic_eq_dataWord_iff hlength).mp hdata
    exact skipped_of_none hpc (hdecodes.trans hnone)
  skips_only := by
    rintro ⟨m', hstep⟩
    have hnone := (step_eq_done_iff.mp hstep).2.1.trans hdecodes
    exact (Item.mnemonic_eq_dataWord_iff hlength).mpr hnone.symm

/-- Where a program of at most 3584 bytes is in memory, the processor does what
the listing of the program shows, word by word; and the listing has an item for
each of the words. -/
theorem dealsWith_items (annotate : Bool) {rom : List UInt8}
    (hsize : rom.length ≤ 3584) :
    (∀ item ∈ Listing.ofBytes annotate 0x200 0 rom, item.length = 2 →
      (∀ (m : Machine ρ δ) (name : String),
        (m.load name 0x200 rom).core.memory.Shows 0x200 rom item.address ∧
          (m.load name 0x200 rom).core.memory.Shows 0x200 rom
            (item.address + 1)) ∧
      ∀ m : Machine ρ δ, m.core.registers.pc = item.address →
        m.core.memory.Shows 0x200 rom item.address →
        m.core.memory.Shows 0x200 rom (item.address + 1) → m.DealsWith item) ∧
    ∀ k : Nat, 2 * k + 1 < rom.length →
      ∃ item ∈ Listing.ofBytes annotate 0x200 0 rom,
        item.address = 0x200 + 2 * k ∧ item.length = 2 := by
  refine ⟨?_, ?_⟩
  · intro item hitem hlength
    obtain ⟨high, low, hchunk⟩ := item.length_eq_two_iff.mp hlength
    obtain ⟨k, haddress, hhigh, hlow⟩ :=
      (exists_word_mem_ofBytes_iff annotate 0x200 rom).mp
      ⟨item, hitem, rfl, hchunk⟩
    have hlast : 2 * k + 1 < rom.length :=
      (List.getElem?_eq_some_iff.mp hlow).1
    refine ⟨?_, ?_⟩
    · intro m name
      have hfirst :=
        m.core.memory.shows_load 0x200 rom (k := 2 * k) (by decide) (by omega)
        (by omega)
      have hsecond :=
        m.core.memory.shows_load 0x200 rom (by decide) hlast (by omega)
      rw [memory_load, haddress]
      exact ⟨hfirst, hsecond⟩
    · intro m hpc hfirst hsecond
      have hinside : 0 ≤ m.core.registers.pc ∧
          m.core.registers.pc + 1 < 4096 := by omega
      have hk : (m.core.registers.pc - 0x200).toNat = 2 * k := by omega
      have hk' : (m.core.registers.pc + 1 - 0x200).toNat = 2 * k + 1 := by
        omega
      rw [← hpc] at hfirst hsecond
      refine dealsWith_of_decodes hinside hlength ?_
      rw [instruction?_of_shows hinside hfirst hsecond (hk ▸ hhigh)
        (hk' ▸ hlow), Item.instruction?, hchunk, Chunk.instruction?]
  · intro k hk
    obtain ⟨item, hitem, haddress, hchunk⟩ :=
      (exists_word_mem_ofBytes_iff annotate 0x200 rom).mpr
      ⟨k, rfl, List.getElem?_eq_getElem (by omega),
        List.getElem?_eq_getElem hk⟩
    exact ⟨item, hitem, haddress, item.length_eq_two_iff.mpr ⟨_, _, hchunk⟩⟩

/-- A word that family 8 does not know, behind an instruction and before a last
odd byte. -/
theorem unknown_word_dealsWith :
    let rom : List UInt8 := [0x00, 0xE0, 0x80, 0x08, 0x12]
    let clear : Item := ⟨0x200, .word 0x00 0xE0, []⟩
    let hole : Item := ⟨0x202, .word 0x80 0x08, []⟩
    let m : Machine CycledBytes (List Signal) :=
      (powerOn {} ⟨[], []⟩ []).load "hole" 0x200 rom
    clear.assembly = "CLS" ∧ hole.assembly = "DW $8008" ∧ m.DealsWith clear ∧
      m.next.DealsWith hole ∧ ∃ m',
        m.next.step = .done none m' ∧ Skipped m.next m' := by
  intro rom clear hole m
  have hsize : rom.length ≤ 3584 := by decide
  have hitems :=
    (dealsWith_items (ρ := CycledBytes) (δ := List Signal) true hsize).1
  have hclear :=
    (hitems clear (by decide +kernel) rfl).2 m rfl (by decide +kernel)
    (by decide +kernel)
  have hhole :=
    (hitems hole (by decide +kernel) rfl).2 m.next (by decide +kernel)
    (by decide +kernel) (by decide +kernel)
  exact ⟨by decide +kernel, by decide +kernel, hclear, hhole,
    hhole.skips (by decide +kernel)⟩

end Machine

end Chip8
