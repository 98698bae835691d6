import Chip8.Proofs.Course

/-!
# Calls and their returns

`level ms` is how deep the ticks of a course nest: the calls among them less
the returns. The call stack is a ring of sixteen slots, so what a return finds
in its slot is not what its own call put there, but what the last call put
there whose level leaves the same remainder modulo sixteen. `openings` pairs
each call of a course with the level that it opens, the level before the
remaining ticks carried along, and `lastOpening?` picks that last call.

The invariant (`Nested`) is about every slot and says nothing of how deep a
course nests: the stack pointer may wrap and slots may be overwritten any
number of times. That no other operation touches the stack comes from
`Core.Footprint`.
-/

namespace Chip8

namespace CallStack

theorem slot_wrap (sp : Int) : slot (wrap sp) = slot sp := by
  have h : sp % 256 % 16 = sp % 16 := by omega
  simp only [slot, wrap, h]

theorem top_wrap (s : CallStack) (sp : Int) : s.top (wrap sp) = s.top sp := by
  simp only [top, slot_wrap]

theorem slot_eq_iff (sp sp' : Int) :
    slot sp = slot sp' ↔ sp % 16 = sp' % 16 := by
  rw [slot, slot, Fin.mk.injEq]
  omega

theorem top_push (s : CallStack) (sp sp' : Int) (a : Word) :
    (s.push sp a).2.top sp' = if (sp + 1) % 16 = sp' % 16 then a
      else s.top sp' := by
  have h :
      ((slot (sp + 1)).val = (slot sp').val) = ((sp + 1) % 16 = sp' % 16) := by
    rw [← Fin.ext_iff, slot_eq_iff]
  simp only [push, top, slot_wrap, Fin.getElem_fin, Vector.getElem_set, h]

end CallStack

theorem Word.toNat_ofInt (z : Int) : ((ofInt z).toNat : Int) = z % 65536 := by
  simp only [ofInt, UInt16.toNat_ofNat']
  omega

namespace Instruction

theorem operation_eq_call_iff (i : Instruction) :
    i.operation = .call ↔ ∃ nnn, i = .call nnn := by
  cases i <;> simp [operation]

theorem operation_eq_ret_iff (i : Instruction) :
    i.operation = .ret ↔ i = .ret := by
  cases i <;> simp [operation]

end Instruction

namespace Core

variable {ρ : Type}

@[simp] theorem endTick_stack (c : Core ρ) (due : Bool) :
    (c.endTick due).stack = c.stack := by
  cases due <;> rfl

@[simp] theorem endTick_sp (c : Core ρ) (due : Bool) :
    (c.endTick due).registers.sp = c.registers.sp := by
  cases due <;> rfl

@[simp] theorem endTick_pc (c : Core ρ) (due : Bool) :
    (c.endTick due).registers.pc = c.registers.pc := by
  cases due <;> rfl

end Core

namespace Machine

variable {ρ δ : Type}

/-! ## Levels -/

/-- How deep some ticks nest: the calls less the returns. -/
def level (ms : List (Machine ρ δ)) : Int :=
  ms.countP (·.operation? = some .call) - ms.countP (·.operation? = some .ret)

@[simp] theorem level_nil : level ([] : List (Machine ρ δ)) = 0 := rfl

theorem level_append (ms ms' : List (Machine ρ δ)) :
    level (ms ++ ms') = level ms + level ms' := by
  simp only [level, List.countP_append]
  omega

theorem level_cons (m : Machine ρ δ) (ms : List (Machine ρ δ)) :
    level (m :: ms) = level [m] + level ms :=
  level_append [m] ms

theorem level_of_call {m : Machine ρ δ} (h : m.operation? = some .call) :
    level [m] = 1 := by
  simp [level, h]

theorem level_of_ret {m : Machine ρ δ} (h : m.operation? = some .ret) :
    level [m] = -1 := by
  simp [level, h]

theorem level_of_other {m : Machine ρ δ} (hc : m.operation? ≠ some .call)
    (hr : m.operation? ≠ some .ret) : level [m] = 0 := by
  simp [level, hc, hr]

/-- A tick goes at most one level up or down, and only a return goes down. -/
theorem level_singleton_cases (m : Machine ρ δ) :
    (m.operation? = some .ret ∧ level [m] = -1) ∨ 0 ≤ level [m] := by
  by_cases hr : m.operation? = some .ret
  · exact .inl ⟨hr, level_of_ret hr⟩
  · refine .inr ?_
    simp only [level, List.countP_singleton, hr, decide_false,
      Bool.false_eq_true, if_false]
    omega

/-- The calls among some ticks, each with the level that it opens, if the given
level was open before. -/
def openings : Int → List (Machine ρ δ) → List (Int × Machine ρ δ)
  | _, [] => []
  | n, m :: ms =>
    if m.operation? = some .call then (n + 1, m) :: openings (n + 1) ms
    else openings (n + level [m]) ms

theorem openings_append (n : Int) (ms ms' : List (Machine ρ δ)) :
    openings n (ms ++ ms') = openings n ms ++ openings (n + level ms) ms' := by
  induction ms generalizing n with
  | nil => simp [openings]
  | cons m ms ih =>
      rw [level_cons]
      by_cases hm : m.operation? = some .call
      · rw [level_of_call hm]
        simp [openings, hm, ih, Int.add_assoc]
      · simp [openings, hm, ih, Int.add_assoc]

/-- The last call among some ticks whose level leaves the same remainder modulo
sixteen as the given one. -/
def lastOpening? (l : Int) (ms : List (Machine ρ δ)) : Option (Machine ρ δ) :=
  (((openings 0 ms).filter fun o => o.1 % 16 = l % 16).getLast?).map Prod.snd

theorem lastOpening?_append_of_call {m : Machine ρ δ}
    (h : m.operation? = some .call) (l : Int) (ms : List (Machine ρ δ)) :
    lastOpening? l (ms ++ [m]) =
      if (level ms + 1) % 16 = l % 16 then some m else lastOpening? l ms := by
  unfold lastOpening?
  rw [openings_append, Int.zero_add]
  by_cases hl : (level ms + 1) % 16 = l % 16
  · simp [openings, h, hl]
  · simp [openings, h, hl]

theorem lastOpening?_append_of_not_call {m : Machine ρ δ}
    (h : m.operation? ≠ some .call) (l : Int) (ms : List (Machine ρ δ)) :
    lastOpening? l (ms ++ [m]) = lastOpening? l ms := by
  simp [lastOpening?, openings_append, openings, h]

def returnAddress (m : Machine ρ δ) : Int :=
  (m.core.registers.pc + 2) % 65536

/-! ## Matched calls -/

/-- A call, what its routine does, and the return that matches it: the first
one with which there are as many returns as calls. -/
structure Matched (ms : List (Machine ρ δ)) : Prop where
  call : ms.head?.bind operation? = some .call
  closed : level ms = 0
  least : ∀ k, 0 < k → k < ms.length → level (ms.take k) ≠ 0

theorem level_take_succ {ms : List (Machine ρ δ)} {k : Nat}
    (hk : k < ms.length) :
    level (ms.take (k + 1)) = level (ms.take k) + level [ms[k]] := by
  rw [← level_append, List.take_append_getElem hk]

theorem Matched.one_le_level {ms : List (Machine ρ δ)} (h : Matched ms)
    (k : Nat) (hk : 0 < k) (hlt : k < ms.length) : 1 ≤ level (ms.take k) := by
  induction k with
  | zero => omega
  | succ k ih =>
      have hne := h.least (k + 1) hk hlt
      rw [level_take_succ (by omega)] at hne ⊢
      have hcases := level_singleton_cases ms[k]
      rcases Nat.eq_zero_or_pos k with rfl | hpos
      · cases ms with
        | nil => simp at hlt
        | cons a ms =>
            have ha : level [a] = 1 := level_of_call h.call
            simp [ha]
      · have := ih hpos (by omega)
        omega

/-- What ends a matched call is a return from level 1. -/
theorem Matched.eq_append_ret {ms : List (Machine ρ δ)} (h : Matched ms) :
    ∃ rest r, ms = rest ++ [r] ∧ r.operation? = some .ret ∧
      level rest = 1 := by
  rcases List.eq_nil_or_concat ms with rfl | ⟨rest, r, hms⟩
  · simpa using h.call
  · rw [List.concat_eq_append] at hms
    subst hms
    have hclosed := h.closed
    rw [level_append] at hclosed
    have hrest : 1 ≤ level rest := by
      rcases Nat.eq_zero_or_pos rest.length with hnil | hpos
      · obtain rfl := List.eq_nil_of_length_eq_zero hnil
        have hr : level [r] = 1 := level_of_call h.call
        simp [hr] at hclosed
      · have := h.one_le_level rest.length hpos (by simp)
        rwa [List.take_left] at this
    rcases level_singleton_cases r with ⟨hr, hdown⟩ | hup
    · exact ⟨rest, r, rfl, hr, by omega⟩
    · omega

theorem mem_openings {n l : Int} {c : Machine ρ δ} {ms : List (Machine ρ δ)}
    (h : (l, c) ∈ openings n ms) :
    ∃ k < ms.length,
      l = n + level (ms.take k) + 1 ∧ l = n + level (ms.take (k + 1)) := by
  induction ms generalizing n with
  | nil => simp [openings] at h
  | cons m ms ih =>
      by_cases hm : m.operation? = some .call
      · have hup := level_of_call hm
        rw [openings, if_pos hm] at h
        rcases List.mem_cons.mp h with heq | hmem
        · cases heq
          exact ⟨0, by simp, by simp [hup]⟩
        · obtain ⟨k, hk, h₀, h₁⟩ := ih hmem
          refine ⟨k + 1, by simpa using hk, ?_⟩
          rw [List.take_succ_cons, List.take_succ_cons,
            level_cons m (ms.take k), level_cons m (ms.take (k + 1))]
          omega
      · rw [openings, if_neg hm] at h
        obtain ⟨k, hk, h₀, h₁⟩ := ih h
        refine ⟨k + 1, by simpa using hk, ?_⟩
        rw [List.take_succ_cons, List.take_succ_cons, level_cons m (ms.take k),
          level_cons m (ms.take (k + 1))]
        omega

theorem openings_of_call {a : Machine ρ δ} {ms : List (Machine ρ δ)}
    (h : a.operation? = some .call) :
    openings 0 (a :: ms) = (1, a) :: openings 1 ms := by
  simp [openings, h]

theorem Matched.exists_lastOpening? {ms : List (Machine ρ δ)}
    (h : Matched ms) :
    ∃ c, lastOpening? 1 ms = some c := by
  cases ms with
  | nil => simpa using h.call
  | cons a ms =>
      have ha : a.operation? = some .call := h.call
      rw [← Option.isSome_iff_exists, lastOpening?, openings_of_call ha]
      simp

/-- At most sixteen levels deep, no other call takes the slot of the first
one. -/
theorem Matched.lastOpening?_of_le {a : Machine ρ δ} {ms : List (Machine ρ δ)}
    (h : Matched (a :: ms)) (hle : ∀ k, level ((a :: ms).take k) ≤ 16) :
    lastOpening? 1 (a :: ms) = some a := by
  have ha : a.operation? = some .call := h.call
  have hnone : (openings 1 ms).filter (fun o => o.1 % 16 = 1 % 16) = [] := by
    rw [List.filter_eq_nil_iff]
    rintro ⟨l, c⟩ hmem
    obtain ⟨k, hk, h₀, h₁⟩ := mem_openings hmem
    have hlow := h.one_le_level (k + 1) (by omega) (by simpa using hk)
    have hhigh := hle (k + 2)
    rw [List.take_succ_cons, level_cons, level_of_call ha] at hlow hhigh
    have hne : l % 16 ≠ 1 := by omega
    simpa using hne
  rw [lastOpening?, openings_of_call ha, List.filter_cons, hnone]
  rfl

/-! ## What a tick does to the stack -/

variable [RandomSource ρ] {m₀ m m' : Machine ρ δ} {ms : List (Machine ρ δ)}

namespace Done

variable [Devices δ]

theorem stack_of_not_call (hd : Done m m') (h : m.operation? ≠ some .call) :
    m'.core.stack = m.core.stack := by
  rw [hd.core, Core.endTick_stack, hd.footprint.stack h, fetched_stack]

theorem sp_of_other (hd : Done m m') (hc : m.operation? ≠ some .call)
    (hr : m.operation? ≠ some .ret) :
    m'.core.registers.sp = m.core.registers.sp := by
  rw [hd.core, Core.endTick_sp, hd.footprint.sp hc hr, fetched_sp]

theorem of_call (hd : Done m m') (h : m.operation? = some .call) :
    m'.core.registers.sp = CallStack.wrap (m.core.registers.sp + 1) ∧
      m'.core.stack =
        (m.core.stack.push m.core.registers.sp
          (Word.ofInt m.returnAddress)).2 := by
  obtain ⟨i, hi, hop⟩ := Option.map_eq_some_iff.mp h
  obtain ⟨nnn, rfl⟩ := i.operation_eq_call_iff.mp hop
  have hcall : m.fetched.call nnn = m.afterInstruction := by
    simpa [Core.execute] using hd.execute_eq hi
  rw [hd.core, Core.endTick_sp, Core.endTick_stack, ← hcall]
  simp [Core.call, Core.pushCall, Core.goTo, Core.mapRegisters, CallStack.push,
    Registers.wrap16, returnAddress]

theorem of_ret (hd : Done m m') (h : m.operation? = some .ret) :
    m'.core.registers.pc = (m.core.stack.top m.core.registers.sp).toNat ∧
      m'.core.registers.sp = CallStack.wrap (m.core.registers.sp - 1) := by
  obtain ⟨i, hi, hop⟩ := Option.map_eq_some_iff.mp h
  obtain rfl := i.operation_eq_ret_iff.mp hop
  have hret : m.fetched.ret = m.afterInstruction := by
    simpa [Core.execute] using hd.execute_eq hi
  rw [hd.core, Core.endTick_sp, Core.endTick_pc, ← hret]
  simp [Core.ret, Core.popCall, Core.goTo, Core.mapRegisters, CallStack.pop]

end Done

/-! ## What a course does to the stack -/

/-- What the ticks of a course that started from `m₀` left of the stack pointer
and of the slots. -/
structure Nested (m₀ : Machine ρ δ) (ms : List (Machine ρ δ))
    (m : Machine ρ δ) : Prop where
  sp : m.core.registers.sp = CallStack.wrap (m₀.core.registers.sp + level ms)
  top (l : Int) : m.core.stack.top (m₀.core.registers.sp + l) =
    match lastOpening? l ms with
    | some c => Word.ofInt c.returnAddress
    | none => m₀.core.stack.top (m₀.core.registers.sp + l)

theorem Nested.tick [Devices δ] (h : Nested m₀ ms m) (hd : Done m m') :
    Nested m₀ (ms ++ [m]) m' := by
  by_cases hc : m.operation? = some .call
  · obtain ⟨hsp, hstack⟩ := hd.of_call hc
    refine ⟨?_, ?_⟩
    · rw [hsp, level_append, level_of_call hc]
      simp only [CallStack.wrap, h.sp]
      omega
    · intro l
      have hslot :
          (m.core.registers.sp + 1) % 16 = (m₀.core.registers.sp + l) % 16 ↔
          (level ms + 1) % 16 = l % 16 := by
        rw [h.sp, CallStack.wrap]
        omega
      rw [hstack, CallStack.top_push, lastOpening?_append_of_call hc]
      by_cases hl : (level ms + 1) % 16 = l % 16
      · rw [if_pos (hslot.mpr hl), if_pos hl]
      · rw [if_neg (mt hslot.mp hl), if_neg hl, h.top]
  · refine ⟨?_, ?_⟩
    · by_cases hr : m.operation? = some .ret
      · rw [(hd.of_ret hr).2, level_append, level_of_ret hr]
        simp only [CallStack.wrap, h.sp]
        omega
      · rw [hd.sp_of_other hc hr, level_append, level_of_other hc hr,
          Int.add_zero]
        exact h.sp
    · intro l
      rw [hd.stack_of_not_call hc, lastOpening?_append_of_not_call hc]
      exact h.top l

theorem Course.nested [Devices δ] (h : Course m₀ ms m) (h₀ : m₀.InRange) :
    Nested m₀ ms m := by
  refine h.induction_done h₀ (P := Nested m₀) ?_
    (fun _ _ _ _ _ _ hm => ⟨hm.sp, hm.top⟩) (fun _ _ _ _ hd hm => hm.tick hd)
  refine ⟨?_, fun l => rfl⟩
  have hsp := h₀.registers.sp
  simp only [level_nil, CallStack.wrap]
  omega

variable [Devices δ]

/-- A matching return restores the stack pointer and goes where the last call
of its level modulo sixteen wants to return to. That is the call that it
matches, as long as no more than sixteen levels were open. -/
theorem return_of_matched_call {a : Machine ρ δ} (h₀ : m₀.Reachable)
    (h : Course m₀ (a :: ms) m) (hm : Matched (a :: ms)) :
    m.core.registers.sp = a.core.registers.sp ∧
      (∃ c, lastOpening? 1 (a :: ms) = some c ∧
        m.core.registers.pc = c.returnAddress) ∧
      ((∀ k, level ((a :: ms).take k) ≤ 16) →
        m.core.registers.pc = a.returnAddress) := by
  have ha : a.InRange := (h.inRange h₀.inRange).2 a (by simp)
  obtain ⟨c, hc⟩ := hm.exists_lastOpening?
  have hsp : m.core.registers.sp = a.core.registers.sp := by
    have hrange := ha.registers.sp
    rw [(h.of_first.nested ha).sp, hm.closed, CallStack.wrap]
    omega
  have hpc : m.core.registers.pc = c.returnAddress := by
    obtain ⟨rest, r, hms, hret, hlevel⟩ := hm.eq_append_ret
    have hcourse := h.of_first
    rw [hms] at hcourse hc
    obtain ⟨hr, -, r', hdone, hidle⟩ := hcourse.split_done ha
    obtain ⟨_, _, _, _, rfl⟩ := hidle.idle
    have htop := (hr.nested ha).top 1
    rw [lastOpening?_append_of_not_call (by simp [hret])] at hc
    rw [hc] at htop
    change r'.core.registers.pc = _
    rw [(hdone.of_ret hret).1, (hr.nested ha).sp, hlevel, CallStack.top_wrap,
      htop, Word.toNat_ofInt, returnAddress]
    omega
  refine ⟨hsp, ⟨c, hc, hpc⟩, ?_⟩
  intro hle
  rw [hm.lastOpening?_of_le hle] at hc
  cases hc
  exact hpc

/-- Two routines, one called by the other. -/
theorem nestedCalls_return :
    let m₀ : Machine CycledBytes (List Signal) :=
  (powerOn {} ⟨[], []⟩ []).respond
      (.load "nested" 512 [0x22, 0x04, 0x12, 0x02, 0x22, 0x08, 0x00, 0xEE,
        0x00, 0xEE])
    let ms := [m₀, m₀.next, m₀.next.next, m₀.next.next.next]
    let m := m₀.next.next.next.next
    m₀.Reachable ∧ Course m₀ ms m ∧ Matched ms ∧
      m.core.registers.sp = m₀.core.registers.sp ∧
        m.core.registers.pc = m₀.returnAddress := by
  intro m₀ ms m
  have h₀ : m₀.Reachable := ⟨_, _, _, _, Course.start.outside _⟩
  have hrun : (m₀.completes ∧ m₀.next.completes ∧ m₀.next.next.completes ∧
      m₀.next.next.next.completes) ∧ ms.head?.bind operation? = some .call ∧
      level ms = 0 ∧ ∀ k < 4, 0 < k → level (ms.take k) ≠ 0 := by
    decide +kernel
  obtain ⟨⟨h₁, h₂, h₃, h₄⟩, hcall, hclosed, hleast⟩ := hrun
  have hc : Course m₀ ms m :=
    (((Course.start.next h₁).next h₂).next h₃).next h₄
  have hm : Matched ms := ⟨hcall, hclosed, fun k hpos hlt => hleast k hlt hpos⟩
  have hle : ∀ k, level (ms.take k) ≤ 16 := by
    intro k
    have hcount :=
      (ms.take k).countP_le_length (p := fun m => m.operation? = some .call)
    have hlen : (ms.take k).length ≤ 4 := List.length_take_le' k ms
    unfold level
    omega
  obtain ⟨hsp, -, hpc⟩ := return_of_matched_call h₀ hc hm
  exact ⟨h₀, hc, hm, hsp, hpc hle⟩

end Machine

end Chip8
