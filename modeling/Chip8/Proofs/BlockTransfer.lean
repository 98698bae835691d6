import Chip8.Proofs.Drawing
import Mathlib.Order.Fin.Basic

/-!
# Blocks at the edge of memory

Stores and loads access a block of memory place by place, from the index
register on, which may lie anywhere. Each place is dealt with by itself: inside
memory a byte is written or read, outside a fault is recorded and reported
(`FaultLog.ofBlock`), a write is dropped and a read yields zero. So a block
that reaches past the end of memory is transferred as far as it lies inside,
and no place of it is another one.

Both stores are `Core.writeBytes` of what they store
(`Core.storeRegs_eq_writeBytes`, `Core.storeDecimal_eq_writeBytes`). What they
leave is `Core.Stored`, and what a load leaves `Core.Loaded`.
-/

namespace Chip8

/-- The faults of a block: one for each place outside memory, in order. -/
def FaultLog.ofBlock (kind : AccessKind) (base : Int) (n : Nat) : List Fault :=
  ((List.range n).filter fun (k : Nat) =>
    ¬ (0 ≤ base + k ∧ base + k ≤ 0xFFF)).map fun (k : Nat) => ⟨kind, base + k⟩

namespace FaultLog

theorem ofBlock_one (kind : AccessKind) (a : Int) :
    ofBlock kind a 1 = if 0 ≤ a ∧ a ≤ 0xFFF then [] else [⟨kind, a⟩] := by
  have hrange : List.range 1 = [0] := rfl
  have hplace : a + ((0 : Nat) : Int) = a := by simp
  rw [ofBlock, hrange, List.filter_singleton, hplace]
  by_cases ha : 0 ≤ a ∧ a ≤ 0xFFF
  · simp [ha]
  · simp [ha]

theorem ofBlock_succ (kind : AccessKind) (base : Int) (n : Nat) :
    ofBlock kind base (n + 1) = ofBlock kind base 1 ++
      ofBlock kind (base + 1) n := by
  have hnext (k : Nat) : base + ((k + 1 : Nat) : Int) = base + 1 + k := by
    omega
  have hrange :
      List.range (n + 1) = List.range 1 ++ (List.range n).map (· + 1) := by
    rw [List.range_succ_eq_map]
    rfl
  rw [ofBlock, hrange, List.filter_append, List.map_append, List.filter_map,
    List.map_map]
  simp only [ofBlock, Function.comp_def, hnext]

theorem pairwise_ofBlock (kind : AccessKind) (base : Int) (n : Nat) :
    (ofBlock kind base n).Pairwise fun f g => f.address < g.address := by
  refine List.pairwise_map.mpr (List.pairwise_lt_range.filter _ |>.imp ?_)
  intro k k' hlt
  dsimp only
  omega

end FaultLog

namespace Core

variable {ρ : Type}

/-- Some faults were recorded and reported, in order. -/
structure Recorded (faults : List Fault) (c c' : Core ρ) : Prop where
  log : c'.memory.faults = faults.foldl FaultLog.record c.memory.faults
  adds : FaultLog.Adds faults c.memory.faults c'.memory.faults
  reports : c'.events = (faults.map Event.fault).reverse ++ c.events

theorem Recorded.of_log {faults : List Fault} {c c' : Core ρ}
    (hlog : c'.memory.faults = faults.foldl FaultLog.record c.memory.faults)
    (hreports : c'.events = (faults.map Event.fault).reverse ++ c.events) :
    Recorded faults c c' :=
  ⟨hlog, hlog ▸ FaultLog.adds_foldl_record _ _, hreports⟩

theorem Recorded.refl (c : Core ρ) : Recorded [] c c :=
  .of_log rfl rfl

theorem Recorded.append {fs gs : List Fault} {c d e : Core ρ}
    (h : Recorded fs c d) (h' : Recorded gs d e) :
    Recorded (fs ++ gs) c e := by
  refine .of_log ?_ ?_
  · rw [h'.log, h.log, List.foldl_append]
  · rw [h'.reports, h.reports, List.map_append, List.reverse_append,
      List.append_assoc]

theorem events_reportFault (c : Core ρ) (kind : AccessKind) (a : Int) :
    (c.reportFault kind a).events =
      ((FaultLog.ofBlock kind a 1).map Event.fault).reverse ++ c.events := by
  rw [FaultLog.ofBlock_one]
  unfold reportFault Memory.fault?
  by_cases ha : 0 ≤ a ∧ a ≤ 0xFFF
  · have hsome : Address.ofInt? a = some ⟨a.toNat, by omega⟩ :=
      dif_pos (by omega)
    simp only [hsome, if_pos ha]
    rfl
  · have hnone : Address.ofInt? a = none :=
      (Address.ofInt?_eq_none_iff a).mpr (by omega)
    simp only [hnone, if_neg ha]
    rfl

theorem foldl_record_ofBlock_one (l : FaultLog) (kind : AccessKind) (a : Int) :
    (FaultLog.ofBlock kind a 1).foldl FaultLog.record l =
      l.note (kind, a) := by
  rw [FaultLog.ofBlock_one, FaultLog.note_eq]
  split <;> rfl

theorem recorded_readByte (c : Core ρ) (a : Int) :
    Recorded (FaultLog.ofBlock .read a 1) c (c.readByte a).2 :=
  .of_log (by rw [faults_readByte, foldl_record_ofBlock_one])
    (events_reportFault _ .read a)

theorem recorded_writeByte (c : Core ρ) (a : Int) (b : UInt8) :
    Recorded (FaultLog.ofBlock .write a 1) c (c.writeByte a b) :=
  .of_log (by rw [faults_writeByte, foldl_record_ofBlock_one])
    (events_reportFault _ .write a)

/-! ## Stores -/

theorem recorded_writeBytes (c : Core ρ) (base : Int) (block : List UInt8) :
    Recorded (FaultLog.ofBlock .write base block.length) c
      (c.writeBytes base block) := by
  induction block generalizing c base with
  | nil => exact .refl c
  | cons b rest ih =>
      rw [List.length_cons, FaultLog.ofBlock_succ]
      exact (c.recorded_writeByte base b).append (ih _ _)

/-- What storing a block from the index register on leaves. -/
structure Stored (block : List UInt8) (c c' : Core ρ) : Prop where
  inside (k : Nat) (b : UInt8) : block[k]? = some b →
    ∀ a : Address, (a.val : Int) = c.registers.index + k →
      c'.memory.byteAt a = b
  outside (a : Address) : ¬ (c.registers.index ≤ a.val ∧
    (a.val : Int) < c.registers.index + block.length) →
    c'.memory.byteAt a = c.memory.byteAt a
  recorded :
    Recorded (FaultLog.ofBlock .write c.registers.index block.length) c c'
  others : c' = { c with memory := c'.memory, events := c'.events }

theorem stored_writeBytes (c : Core ρ) (block : List UInt8) :
    Stored block c (c.writeBytes c.registers.index block) where
  inside k b hb a ha := by
    have hplace : ((a.val : Int) - c.registers.index).toNat = k := by omega
    rw [memory_writeBytes, Memory.byteAt_load, if_neg (by omega), hplace, hb,
      Option.getD_some]
  outside a ha := by
    rw [memory_writeBytes, Memory.byteAt_load]
    split
    · rfl
    · have hnone : block[((a.val : Int) - c.registers.index).toNat]? = none :=
        List.getElem?_eq_none (by omega)
      rw [hnone, Option.getD_none]
  recorded := c.recorded_writeBytes c.registers.index block
  others := by
    obtain ⟨memory, events, h⟩ := c.writeBytes_eq c.registers.index block
    rw [h]

theorem map_val_registersUpTo (x : Register) :
    (registersUpTo x).map Fin.val = List.range' 0 (x.val + 1) := by
  revert x
  decide

theorem length_registersUpTo (x : Register) :
    (registersUpTo x).length = x.val + 1 := by
  rw [← List.length_map (f := Fin.val), map_val_registersUpTo,
    List.length_range']

theorem getElem?_registersUpTo {x r : Register} (h : r ≤ x) :
    (registersUpTo x)[r.val]? = some r := by
  have hval : ((registersUpTo x).map Fin.val)[r.val]? = some r.val := by
    rw [map_val_registersUpTo, List.getElem?_range' (Nat.lt_succ_of_le h)]
    simp
  rw [List.getElem?_map] at hval
  obtain ⟨q, hq, hqr⟩ := Option.map_eq_some_iff.mp hval
  rw [hq, Fin.ext hqr]

/-- Registers one after the other, stored where a block has come to. -/
theorem foldl_writeByte_eq_writeBytes (c : Core ρ) (k : Nat)
    (rs : List Register) (h : rs.map Fin.val = List.range' k rs.length) :
    rs.foldl (fun c r => c.writeByte (c.indexed r.val) (c.get r)) c =
      c.writeBytes (c.indexed k) (rs.map c.get) := by
  induction rs generalizing c k with
  | nil => rfl
  | cons r rest ih =>
      rw [List.map_cons, List.length_cons, List.range'_succ, List.cons.injEq]
        at h
      obtain ⟨rfl, hrest⟩ := h
      obtain ⟨memory, events, hwrite⟩ :=
        c.writeByte_eq (c.indexed r.val) (c.get r)
      have hnext : c.indexed (r.val + 1) = c.indexed r.val + 1 := by
        simp only [indexed]
        omega
      rw [List.foldl_cons, ih _ _ hrest, List.map_cons, writeBytes, ← hnext,
        hwrite]
      rfl

theorem storeRegs_eq_writeBytes (c : Core ρ) (x : Register) :
    c.storeRegs x =
      c.writeBytes c.registers.index ((registersUpTo x).map c.get) := by
  have hstore := c.foldl_writeByte_eq_writeBytes 0 (registersUpTo x)
    (by rw [map_val_registersUpTo, length_registersUpTo])
  rw [storeRegs, hstore, indexed, Int.natCast_zero, Int.add_zero]

theorem storeDecimal_eq_writeBytes (c : Core ρ) (x : Register) :
    let d := Arithmetic.decimal (c.get x).toNat
    c.storeDecimal x =
        c.writeBytes c.registers.index [d.hundreds, d.tens, d.units] := by
  have h₀ : c.indexed 0 = c.registers.index := by simp [indexed]
  have h₁ : c.indexed 1 = c.registers.index + 1 := rfl
  have h₂ : c.indexed 2 = c.registers.index + 1 + 1 := by
    simp only [indexed]
    omega
  rw [storeDecimal, h₀, h₁, h₂]
  rfl

/-! ## Loads -/

theorem get_loadReg (c : Core ρ) (q r : Register) :
    (c.loadReg q).get r =
      if r = q then (c.memory.byte? (c.indexed q.val)).getD 0
        else c.get r := by
  by_cases h : r = q
  · subst h
    rw [if_pos rfl, ← Memory.read_fst]
    exact (Registers.get_set _ _ _ _).trans (if_pos rfl)
  · rw [if_neg h, get_loadReg_of_ne c h]

/-- No load changes what another one finds. -/
theorem get_foldl_loadReg (c : Core ρ) (rs : List Register) (r : Register) :
    (rs.foldl loadReg c).get r =
      if r ∈ rs then (c.memory.byte? (c.indexed r.val)).getD 0
        else c.get r := by
  induction rs generalizing c with
  | nil => rfl
  | cons q rest ih =>
      obtain ⟨v, faults, events, hload⟩ := c.loadReg_eq q
      have hplace : (c.loadReg q).memory.byte? ((c.loadReg q).indexed r.val) =
          c.memory.byte? (c.indexed r.val) := by
        rw [hload]
        rfl
      rw [List.foldl_cons, ih, hplace, get_loadReg]
      by_cases hrest : r ∈ rest
      · simp [hrest]
      · by_cases hq : r = q
        · simp [hq]
        · simp [hrest, hq]

theorem recorded_foldl_loadReg (c : Core ρ) (k : Nat) (rs : List Register)
    (h : rs.map Fin.val = List.range' k rs.length) :
    Recorded (FaultLog.ofBlock .read (c.indexed k) rs.length) c
      (rs.foldl loadReg c) := by
  induction rs generalizing c k with
  | nil => exact .refl c
  | cons r rest ih =>
      rw [List.map_cons, List.length_cons, List.range'_succ, List.cons.injEq]
        at h
      obtain ⟨rfl, hrest⟩ := h
      obtain ⟨v, faults, events, hload⟩ := c.loadReg_eq r
      have hnext :
          (c.loadReg r).indexed (r.val + 1) = c.indexed r.val + 1 := by
        rw [hload]
        simp only [indexed]
        omega
      have hfirst :
          Recorded (FaultLog.ofBlock .read (c.indexed r.val) 1) c
            (c.loadReg r) :=
        .of_log (c.recorded_readByte (c.indexed r.val)).log
          (c.recorded_readByte (c.indexed r.val)).reports
      rw [List.length_cons, FaultLog.ofBlock_succ, List.foldl_cons, ← hnext]
      exact hfirst.append (ih _ _ hrest)

/-- What loading `V0` to `Vx` from the index register on leaves. -/
structure Loaded (x : Register) (c c' : Core ρ) : Prop where
  inside (r : Register) : r ≤ x → ∀ a :
    Address, (a.val : Int) = c.registers.index + r.val →
    c'.get r = c.memory.byteAt a
  outside (r : Register) : r ≤ x →
    ¬ (0 ≤ c.registers.index + r.val ∧ c.registers.index + r.val ≤ 0xFFF) →
      c'.get r = 0
  above (r : Register) : x < r → c'.get r = c.get r
  recorded :
    Recorded (FaultLog.ofBlock .read c.registers.index (x.val + 1)) c c'
  others : c' =
    { c with
      registers := { c.registers with v := c'.registers.v }
      memory := ⟨c.memory.bytes, c'.memory.faults⟩
      events := c'.events }

theorem loaded_loadRegs (c : Core ρ) (x : Register) :
    Loaded x c (c.loadRegs x) := by
  have hget (r : Register) : (c.loadRegs x).get r =
      if r ≤ x then (c.memory.byte? (c.indexed r.val)).getD 0
        else c.get r := by
    rw [loadRegs, get_foldl_loadReg]
    simp [registersUpTo]
  constructor
  case inside =>
    intro r hr a ha
    rw [hget, if_pos hr, indexed, ← ha, Memory.byte?, Address.ofInt?_val]
    rfl
  case outside =>
    intro r hr hout
    have hnone : Address.ofInt? (c.registers.index + r.val) = none :=
      (Address.ofInt?_eq_none_iff _).mpr (by omega)
    rw [hget, if_pos hr, indexed, Memory.byte?, hnone]
    rfl
  case above =>
    intro r hr
    rw [hget, if_neg (Fin.not_le.mpr hr)]
  case recorded =>
    have hrecorded := c.recorded_foldl_loadReg 0 (registersUpTo x)
      (by rw [map_val_registersUpTo, length_registersUpTo])
    rwa [length_registersUpTo, indexed, Int.natCast_zero, Int.add_zero]
      at hrecorded
  case others =>
    obtain ⟨v, faults, events, hload⟩ := c.loadRegs_eq x
    rw [hload]

/-! ## Transfers -/

theorem decimal_digits (b : UInt8) :
    let d := Arithmetic.decimal b.toNat
    100 * d.hundreds.toNat + 10 * d.tens.toNat + d.units.toNat = b.toNat ∧
      d.hundreds.toNat ≤ 9 ∧ d.tens.toNat ≤ 9 ∧ d.units.toNat ≤ 9 := by
  have hb := b.toNat_lt
  simp only [Arithmetic.decimal, UInt8.toNat_ofNat']
  omega

/-- A block that was stored is loaded back as far as it lies inside memory,
whatever has become of the general registers since. -/
theorem get_of_stored_loaded {c c₁ c₂ : Core ρ} {x : Register}
    {v : Vector UInt8 16} (hstored : Stored ((registersUpTo x).map c.get) c c₁)
    (hloaded : Loaded x { c₁ with registers := { c₁.registers with v } } c₂)
    {r : Register} (hr : r ≤ x) :
    c₂.get r =
      if 0 ≤ c.registers.index + r.val ∧
          c.registers.index + r.val ≤ 0xFFF then
        c.get r
      else 0 := by
  have hindex : c₁.registers.index = c.registers.index := by
    rw [hstored.others]
  split
  next hin =>
    obtain ⟨a, ha⟩ : ∃ a : Address,
        (a.val : Int) = c.registers.index + r.val :=
      ⟨⟨(c.registers.index + r.val).toNat, by omega⟩,
        Int.toNat_of_nonneg hin.1⟩
    have hblock : ((registersUpTo x).map c.get)[r.val]? = some (c.get r) := by
      rw [List.getElem?_map, getElem?_registersUpTo hr, Option.map_some]
    rw [hloaded.inside r hr a (by rw [ha, hindex])]
    exact hstored.inside r.val _ hblock a ha
  next hout =>
    refine hloaded.outside r hr ?_
    rwa [hindex]

theorem ofWord?_transfer (x : Register) :
    Instruction.ofWord? (UInt16.ofNat (0xF055 + 0x100 * x.val)) =
      some (.storeRegs x) ∧
      Instruction.ofWord? (UInt16.ofNat (0xF065 + 0x100 * x.val)) =
        some (.loadRegs x) ∧
      Instruction.ofWord? (UInt16.ofNat (0xF033 + 0x100 * x.val)) =
        some (.storeDecimal x) := by
  revert x
  decide

/-- Registers that are stored and loaded again come back as far as their places
are inside memory, and are zero otherwise; decimal digits are stored in the
same way. No other register or byte changes, and each place outside is one
fault, met by increasing address. -/
theorem blocks_transferred_inside [RandomSource ρ] (shiftUsesVy : Bool)
    (c : Core ρ) (x : Register) :
    let i := c.registers.index
    (Instruction.ofWord? (UInt16.ofNat (0xF055 + 0x100 * x.val)) =
      some (.storeRegs x) ∧
      Instruction.ofWord? (UInt16.ofNat (0xF065 + 0x100 * x.val)) =
      some (.loadRegs x) ∧
      Instruction.ofWord? (UInt16.ofNat (0xF033 + 0x100 * x.val)) =
      some (.storeDecimal x)) ∧
    (∃ c₁, c.execute shiftUsesVy (.storeRegs x) = .done c₁ ∧
      Stored ((registersUpTo x).map c.get) c c₁ ∧
      ∀ v : Vector UInt8 16,
        let d : Core ρ := { c₁ with registers := { c₁.registers with v } }
        ∃ c₂, d.execute shiftUsesVy (.loadRegs x) = .done c₂ ∧ Loaded x d c₂ ∧
          (∀ r ≤ x, c₂.get r =
            if 0 ≤ i + r.val ∧ i + r.val ≤ 0xFFF then c.get r else 0) ∧
          (∀ r, x < r → c₂.get r = d.get r) ∧ c₂.registers.index = i ∧
          ∀ a : Address, ¬ (i ≤ a.val ∧ a.val ≤ i + x.val) →
            c₂.memory.byteAt a = c.memory.byteAt a) ∧
    (∃ c' hundreds tens units,
      c.execute shiftUsesVy (.storeDecimal x) = .done c' ∧
      Stored [hundreds, tens, units] c c' ∧
      100 * hundreds.toNat + 10 * tens.toNat + units.toNat = (c.get x).toNat ∧
      hundreds.toNat ≤ 9 ∧ tens.toNat ≤ 9 ∧ units.toNat ≤ 9) ∧
    ∀ kind n, (FaultLog.ofBlock kind i n).Pairwise fun f g =>
      f.address < g.address := by
  intro i
  have hstored : Stored ((registersUpTo x).map c.get) c (c.storeRegs x) := by
    rw [storeRegs_eq_writeBytes]
    exact c.stored_writeBytes _
  refine ⟨ofWord?_transfer x, ⟨_, rfl, hstored, ?_⟩, ?_,
    fun kind n => FaultLog.pairwise_ofBlock kind i n⟩
  · intro v d
    have hloaded : Loaded x d (d.loadRegs x) := d.loaded_loadRegs x
    refine ⟨_, rfl, hloaded, ?_, ?_, ?_, ?_⟩
    · intro r hr
      exact get_of_stored_loaded hstored hloaded hr
    · intro r hr
      exact hloaded.above r hr
    · rw [hloaded.others]
      exact congrArg (·.registers.index) hstored.others
    · intro a ha
      have hbyte : (d.loadRegs x).memory.byteAt a =
          (c.storeRegs x).memory.byteAt a := by
        rw [hloaded.others]
        rfl
      rw [hbyte]
      refine hstored.outside a ?_
      rw [List.length_map, length_registersUpTo]
      omega
  · have hdecimal := c.stored_writeBytes
      [(Arithmetic.decimal (c.get x).toNat).hundreds,
        (Arithmetic.decimal (c.get x).toNat).tens,
        (Arithmetic.decimal (c.get x).toNat).units]
    rw [← storeDecimal_eq_writeBytes] at hdecimal
    exact ⟨_, _, _, _, rfl, hdecimal, decimal_digits (c.get x)⟩

end Core

end Chip8
