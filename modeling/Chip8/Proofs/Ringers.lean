import Chip8.Device.Bell
import Mathlib.Data.List.Induction
import Mathlib.Logic.Function.Iterate

/-!
# Ringers at work

The requests to a bell and the steps of its ringers come in any order. Each
ringer has a request to stop of its own, which is never taken back. So a ringer
that was asked is known from then on by the number of its own steps alone
(`Bell.getElem?_foldl_act`): it rings once more at most, and leaves at its next
wait, whatever becomes of the bell and of the other ringers. The ringer that is
not asked is the latest one, while the tone is on (`Bell.Orderly`).

A request is carried out in two halves, between which ringers may go on: a
ringer is set to work after the tone was noted as on, and asked to stop before
it is noted as off. Steps amid a request come to the same as steps after it
(`Bell.Orderly.secondHalf_firstHalf`), so it is enough to let them stand
between the requests.
-/

namespace Chip8

namespace Ringer

@[simp] theorem asked_step (r : Ringer) : r.step.asked = r.asked := by
  obtain ⟨phase, asked, rings⟩ := r
  cases phase <;> rfl

theorem ask_of_asked {r : Ringer} (h : r.asked = true) : r.ask = r := by
  rw [ask, ← h]

/-- The rings that a ringer still makes once it was asked to stop. -/
def ringsLeft (r : Ringer) : Nat :=
  if r.phase = .ringing then 1 else 0

/-- The steps that a ringer still makes once it was asked to stop. -/
def stepsLeft (r : Ringer) : Nat :=
  match r.phase with
  | .ringing => 2
  | .waiting => 1
  | .gone => 0

theorem ringsLeft_le_one (r : Ringer) : r.ringsLeft ≤ 1 := by
  unfold ringsLeft
  split <;> omega

theorem stepsLeft_eq_zero_iff {r : Ringer} :
    r.stepsLeft = 0 ↔ r.phase = .gone := by
  unfold stepsLeft
  cases r.phase <;> simp

variable {r : Ringer} (h : r.asked = true)
include h

theorem rings_step_add_ringsLeft :
    r.step.rings + r.step.ringsLeft = r.rings + r.ringsLeft := by
  obtain ⟨phase, asked, rings⟩ := r
  obtain rfl : asked = true := h
  cases phase <;> rfl

theorem stepsLeft_step : r.step.stepsLeft = r.stepsLeft - 1 := by
  obtain ⟨phase, asked, rings⟩ := r
  obtain rfl : asked = true := h
  cases phase <;> rfl

theorem iterate_step (n : Nat) :
    (step^[n] r).asked = true ∧
      (step^[n] r).rings + (step^[n] r).ringsLeft = r.rings + r.ringsLeft ∧
      (step^[n] r).stepsLeft = r.stepsLeft - n := by
  induction n with
  | zero => exact ⟨h, rfl, rfl⟩
  | succ n ih =>
      obtain ⟨hasked, hrings, hsteps⟩ := ih
      rw [Function.iterate_succ_apply']
      refine ⟨(asked_step _).trans hasked, ?_, ?_⟩
      · rw [rings_step_add_ringsLeft hasked, hrings]
      · rw [stepsLeft_step hasked, hsteps, Nat.sub_sub]

end Ringer

namespace Bell

def Action.isRequest : Action → Bool
  | .start | .stop | .close => true
  | .step _ => false

/-! ## A ringer that was asked to stop -/

theorem getElem?_act {b : Bell} {i : Nat} {r : Ringer}
    (hr : b.ringers[i]? = some r) (h : r.asked = true) (a : Action) :
    (b.act a).ringers[i]? = some (if a = .step i then r.step else r) := by
  have hask (j : Nat) : (b.ringers.modify j Ringer.ask)[i]? = some r := by
    rw [List.getElem?_modify, hr]
    by_cases hj : j = i <;> simp [hj, Ringer.ask_of_asked h]
  have hi : i < b.ringers.length := (List.getElem?_eq_some_iff.mp hr).1
  cases a with
  | start =>
      simp only [act, start, reduceCtorEq, if_false]
      cases b.current? with
      | none => exact (List.getElem?_append_left hi).trans hr
      | some _ => exact hr
  | stop | close =>
      simp only [act, close, stop, reduceCtorEq, if_false]
      cases b.current? with
      | none => exact hr
      | some j => exact hask j
  | step j =>
      rw [act, stepRinger, List.getElem?_modify, hr]
      by_cases hj : j = i <;> simp [hj]

/-- Only its own steps matter to a ringer that was asked to stop. -/
theorem getElem?_foldl_act {b : Bell} {i : Nat} {r : Ringer}
    (hr : b.ringers[i]? = some r) (h : r.asked = true) (acts : List Action) :
    (acts.foldl act b).ringers[i]? =
      some (Ringer.step^[acts.count (.step i)] r) := by
  induction acts using List.reverseRecOn with
  | nil => exact hr
  | append_singleton acts a ih =>
      rw [List.foldl_append, List.foldl_cons, List.foldl_nil,
        getElem?_act ih (Ringer.iterate_step h _).1, List.count_append,
        List.count_singleton]
      by_cases ha : a = .step i
      · rw [if_pos ha, if_pos (by simp [ha]), Function.iterate_succ_apply']
      · rw [if_neg ha, if_neg (by simp [ha]), Nat.add_zero]

/-! ## The ringer that is not asked -/

/-- The ringer that was not asked to stop is the latest one, and there is none
but while the tone is on. -/
structure Orderly (b : Bell) : Prop where
  unasked_iff {i : Nat} {r : Ringer} :
    b.ringers[i]? = some r → (r.asked = false ↔ b.current? = some i)
  last {i : Nat} : b.current? = some i → i + 1 = b.ringers.length

namespace Orderly

variable {b : Bell}

theorem fresh : Orderly {} where
  unasked_iff hr := by simp at hr
  last hi := by simp at hi

theorem lt_length (h : b.Orderly) {i : Nat} (hi : b.current? = some i) :
    i < b.ringers.length :=
  Nat.lt_of_succ_le (Nat.le_of_eq (h.last hi))

theorem start (h : b.Orderly) : b.start.Orderly := by
  unfold Bell.start
  cases hcurrent : b.current? with
  | some _ => exact h
  | none =>
      refine ⟨fun {i r} hr => ?_, fun hi => ?_⟩
      · rcases Nat.lt_or_ge i b.ringers.length with hold | hnew
        · rw [List.getElem?_append_left hold] at hr
          rw [h.unasked_iff hr, hcurrent]
          simp [Nat.ne_of_gt hold]
        · -- the one ringer beyond those there were
          have hbound := (List.getElem?_eq_some_iff.mp hr).1
          rw [List.length_append, List.length_singleton] at hbound
          obtain rfl : i = b.ringers.length := by omega
          obtain rfl : ({} : Ringer) = r := by simpa using hr
          exact iff_of_true rfl rfl
      · cases hi
        simp

theorem stop (h : b.Orderly) : b.stop.Orderly := by
  unfold Bell.stop
  cases hcurrent : b.current? with
  | none => exact h
  | some j =>
      refine ⟨fun {i r} hr => ?_, by simp⟩
      rw [List.getElem?_modify] at hr
      obtain ⟨r', hr', rfl⟩ := Option.map_eq_some_iff.mp hr
      refine iff_of_false ?_ (by simp)
      by_cases hj : j = i
      · simp [hj, Ringer.ask]
      · rw [if_neg hj, h.unasked_iff hr', hcurrent]
        simpa using hj

theorem stepRinger (h : b.Orderly) (j : Nat) : (b.stepRinger j).Orderly where
  unasked_iff {i r} hr := by
    rw [Bell.stepRinger, List.getElem?_modify] at hr
    obtain ⟨r', hr', rfl⟩ := Option.map_eq_some_iff.mp hr
    refine Iff.trans ?_ (h.unasked_iff hr')
    by_cases hj : j = i <;> simp [hj]
  last hi := (h.last hi).trans (List.length_modify ..).symm

theorem act (h : b.Orderly) (a : Action) : (b.act a).Orderly := by
  cases a with
  | start => exact h.start
  | stop | close => exact h.stop
  | step j => exact h.stepRinger j

theorem foldl_act (h : b.Orderly) (acts : List Action) :
    (acts.foldl Bell.act b).Orderly := by
  induction acts generalizing b with
  | nil => exact h
  | cons a acts ih => exact ih (h.act a)

theorem unasked_iff_last (h : b.Orderly) {i : Nat} {r : Ringer}
    (hr : b.ringers[i]? = some r) :
    r.asked = false ↔ b.playing = true ∧ i + 1 = b.ringers.length := by
  rw [h.unasked_iff hr, playing, Option.isSome_iff_exists]
  constructor
  · intro hi
    exact ⟨⟨i, hi⟩, h.last hi⟩
  · rintro ⟨⟨j, hj⟩, hi⟩
    have hlast := h.last hj
    obtain rfl : i = j := by omega
    exact hj

theorem countP_unasked (h : b.Orderly) :
    b.ringers.countP (!·.asked) = if b.playing then 1 else 0 := by
  rcases List.eq_nil_or_concat b.ringers with hnil | ⟨old, latest, hringers⟩
  · have hsilent : b.playing = false := by
      rw [playing, Option.isSome_eq_false_iff, Option.isNone_iff_eq_none,
        Option.eq_none_iff_forall_ne_some]
      intro i hi
      have := h.lt_length hi
      simp [hnil] at this
    rw [hnil, hsilent]
    rfl
  · have hold : old.countP (!·.asked) = 0 := by
      rw [List.countP_eq_zero]
      intro r hr
      obtain ⟨i, hi⟩ := List.mem_iff_getElem?.mp hr
      have hbound := (List.getElem?_eq_some_iff.mp hi).1
      have hat : b.ringers[i]? = some r := by
        rw [hringers, List.concat_eq_append, List.getElem?_append_left hbound,
          hi]
      have hnot := mt (h.unasked_iff_last hat).mp
      rw [hringers, List.length_concat] at hnot
      simpa using hnot (by omega)
    have hat : b.ringers[old.length]? = some latest := by simp [hringers]
    have hlatest : latest.asked = false ↔ b.playing = true := by
      rw [h.unasked_iff_last hat, hringers, List.length_concat]
      simp
    rw [hringers, List.concat_eq_append, List.countP_append, hold,
      List.countP_singleton]
    cases hp : b.playing <;> simp_all

end Orderly

/-! ## Requests in two halves -/

/-- The first half of a request: a tone that is to begin is noted as on, and
the ringer of one that is to end is asked to stop. -/
def firstHalf (b : Bell) : Action → Bell
  | .start =>
    match b.current? with
    | some _ => b
    | none => { b with current? := some b.ringers.length }
  | .stop | .close =>
    match b.current? with
    | some i => { b with ringers := b.ringers.modify i Ringer.ask }
    | none => b
  | .step i => b.stepRinger i

/-- The second half of a request: the ringer of a tone that was noted as on is
set to work, and one that is to end is noted as off. -/
def secondHalf (b : Bell) : Action → Bell
  | .start =>
    if b.current? = some b.ringers.length then
      { b with ringers := b.ringers ++ [{}] }
    else b
  | .stop | .close => { b with current? := none }
  | .step _ => b

theorem foldl_stepRinger (ringers : List Ringer) (current? : Option Nat)
    (steps : List Nat) :
    steps.foldl stepRinger ⟨ringers, current?⟩ =
      ⟨steps.foldl (fun rs i => rs.modify i Ringer.step) ringers,
        current?⟩ := by
  induction steps generalizing ringers with
  | nil => rfl
  | cons i steps ih => exact ih (ringers.modify i Ringer.step)

theorem length_foldl_modify (ringers : List Ringer) (steps : List Nat) :
    (steps.foldl (fun rs i => rs.modify i Ringer.step) ringers).length =
      ringers.length := by
  induction steps generalizing ringers with
  | nil => rfl
  | cons i steps ih => exact (ih _).trans (List.length_modify ..)

theorem modify_append_of_lt {α : Type} (f : α → α) {xs : List α} {i : Nat}
    (h : i < xs.length) (ys : List α) :
    (xs ++ ys).modify i f = xs.modify i f ++ ys := by
  induction xs generalizing i with
  | nil => simp at h
  | cons x xs ih =>
      cases i with
      | zero => rfl
      | succ i =>
          have htail := ih (Nat.lt_of_succ_lt_succ h)
          simp only [List.cons_append, List.modify_succ_cons, htail]

theorem foldl_modify_append {ringers : List Ringer} {steps : List Nat}
    (h : ∀ i ∈ steps, i < ringers.length) (more : List Ringer) :
    steps.foldl (fun rs i => rs.modify i Ringer.step) (ringers ++ more) =
      steps.foldl (fun rs i => rs.modify i Ringer.step) ringers ++ more := by
  induction steps generalizing ringers with
  | nil => rfl
  | cons i steps ih =>
      have hi : i < ringers.length := h i List.mem_cons_self
      have hrest : ∀ j ∈ steps, j < (ringers.modify i Ringer.step).length := by
        intro j hj
        rw [List.length_modify]
        exact h j (List.mem_cons_of_mem i hj)
      rw [List.foldl_cons, List.foldl_cons, modify_append_of_lt Ringer.step hi,
        ih hrest]

/-- Steps of ringers amid a request come to the same as steps after it. -/
theorem Orderly.secondHalf_firstHalf {b : Bell} (h : b.Orderly) (a : Action)
    {steps : List Nat} (hsteps : ∀ i ∈ steps, i < b.ringers.length) :
    (steps.foldl Bell.stepRinger (b.firstHalf a)).secondHalf a =
      steps.foldl Bell.stepRinger (b.act a) := by
  have hlast (i : Nat) : b.current? = some i → i + 1 = b.ringers.length :=
    h.last
  obtain ⟨ringers, current?⟩ := b
  cases a with
  | step i => rfl
  | stop | close =>
      cases current? <;>
        simp only [firstHalf, Bell.act, close, Bell.stop, foldl_stepRinger,
        secondHalf]
  | start =>
      cases current? with
      | some i =>
          -- the ringer of a tone that is on is there already
          have hne : i ≠ ringers.length := by
            have : i + 1 = ringers.length := hlast i rfl
            omega
          simp [firstHalf, Bell.act, Bell.start, foldl_stepRinger, secondHalf,
            length_foldl_modify, hne]
      | none =>
          simp only [firstHalf, Bell.act, Bell.start, foldl_stepRinger,
            secondHalf, length_foldl_modify, if_pos,
            foldl_modify_append hsteps]

/-! ## Any actions -/

/-- The tone is on if the last request was to start it. -/
theorem playing_foldl_act (acts : List Action) :
    (acts.foldl act {}).playing = true ↔
      (acts.filter Action.isRequest).getLast? = some .start := by
  induction acts using List.reverseRecOn with
  | nil => simp [playing]
  | append_singleton acts a ih =>
      rw [List.foldl_append, List.foldl_cons, List.foldl_nil,
        List.filter_append]
      generalize acts.foldl act {} = b at ih ⊢
      cases a with
      | start => simp [act, Action.isRequest]
      | stop | close => simp [act, close, Action.isRequest]
      | step i =>
          have hsame : (b.stepRinger i).playing = b.playing := rfl
          simp [act, hsame, Action.isRequest, ih]

def freshStarts (b : Bell) : List Action → Nat
  | [] => 0
  | a :: rest =>
    (if a = .start ∧ b.playing = false then 1 else 0) +
      freshStarts (b.act a) rest

theorem length_ringers_act (b : Bell) (a : Action) :
    (b.act a).ringers.length =
      b.ringers.length + if a = .start ∧ b.playing = false then 1 else 0 := by
  cases a with
  | start => cases hb : b.current? <;> simp [act, start, playing, hb]
  | stop | close => cases hb : b.current? <;> simp [act, close, stop, hb]
  | step i => simp [act, stepRinger]

theorem length_ringers_foldl_act (b : Bell) (acts : List Action) :
    (acts.foldl act b).ringers.length =
      b.ringers.length + b.freshStarts acts := by
  induction acts generalizing b with
  | nil => rfl
  | cons a acts ih =>
      rw [List.foldl_cons, ih, length_ringers_act, freshStarts, Nat.add_assoc]

theorem Orderly.asked_of_stop {b : Bell} (h : b.Orderly) {i : Nat} {r : Ringer}
    (hr : b.stop.ringers[i]? = some r) : r.asked = true := by
  have hnot := mt (h.stop.unasked_iff_last hr).mp (by simp)
  simpa using hnot

theorem length_ringers_stop (b : Bell) :
    b.stop.ringers.length = b.ringers.length :=
  length_ringers_act b .stop

structure Follows (b : Bell) (acts : List Action) : Prop where
  playing_iff :
    b.playing = true ↔ (acts.filter Action.isRequest).getLast? = some .start
  unasked_count : b.ringers.countP (!·.asked) = if b.playing then 1 else 0
  unasked_iff (i : Nat) (r : Ringer) : b.ringers[i]? = some r →
    (r.asked = false ↔ b.playing = true ∧ i + 1 = b.ringers.length)
  started_once : b.playing = true → b.act .start = b
  ringers_count : b.ringers.length = freshStarts {} acts
  /-- Whatever happens after the tone was switched off, a ringer of before
  rings once more at most, and its next wait is its last. -/
  leaves (off : Action) : off = .stop ∨ off = .close → ∀ later : List Action,
    ∀ i < b.ringers.length, ∃ r r' : Ringer,
      (b.act off).ringers[i]? = some r ∧
        (later.foldl act (b.act off)).ringers[i]? = some r' ∧
        r'.asked = true ∧ r'.rings ≤ r.rings + 1 ∧
        (r'.phase = .waiting → r'.step.phase = .gone) ∧
        (r.stepsLeft ≤ later.count (.step i) → r'.phase = .gone)
  /-- Ringers may go on amid a request. -/
  halves (a : Action) (steps : List Nat) :
    (∀ i ∈ steps, i < b.ringers.length) →
    (steps.foldl stepRinger (b.firstHalf a)).secondHalf a =
      steps.foldl stepRinger (b.act a)

theorem Orderly.leaves {b : Bell} (h : b.Orderly) (later : List Action)
    {i : Nat} (hi : i < b.ringers.length) : ∃ r r' : Ringer,
      b.stop.ringers[i]? = some r ∧ (later.foldl Bell.act b.stop).ringers[i]? =
        some r' ∧ r'.asked = true ∧ r'.rings ≤ r.rings + 1 ∧
        (r'.phase = .waiting → r'.step.phase = .gone) ∧
        (r.stepsLeft ≤ later.count (.step i) → r'.phase = .gone) := by
  rw [← length_ringers_stop] at hi
  have hr : b.stop.ringers[i]? = some b.stop.ringers[i] :=
    List.getElem?_eq_getElem hi
  have hasked := h.asked_of_stop hr
  obtain ⟨hasked', hrings, hsteps⟩ :=
    Ringer.iterate_step hasked (later.count (.step i))
  refine ⟨_, _, hr, getElem?_foldl_act hr hasked later, hasked', ?_, ?_, ?_⟩
  · have hone := Ringer.ringsLeft_le_one b.stop.ringers[i]
    omega
  · intro hwaiting
    rw [← Ringer.stepsLeft_eq_zero_iff, Ringer.stepsLeft_step hasked']
    simp [Ringer.stepsLeft, hwaiting]
  · intro hmany
    rw [← Ringer.stepsLeft_eq_zero_iff, hsteps]
    exact Nat.sub_eq_zero_of_le hmany

/-- After any requests and any steps of ringers, in any order, one ringer was
not asked to stop while the tone is on, the latest one, and none otherwise; and
each one that was asked is about to leave. -/
theorem follows_of_actions (acts : List Action) :
    (acts.foldl act {}).Follows acts := by
  have h : (acts.foldl act {}).Orderly := Orderly.fresh.foldl_act acts
  refine
    { playing_iff := playing_foldl_act acts
      unasked_count := h.countP_unasked
      unasked_iff := fun i r => h.unasked_iff_last
      started_once := ?_
      ringers_count := ?_
      leaves := ?_
      halves := fun a steps => h.secondHalf_firstHalf a }
  · generalize acts.foldl act {} = b
    intro hon
    obtain ⟨i, hi⟩ := Option.isSome_iff_exists.mp hon
    simp [act, start, hi]
  · rw [length_ringers_foldl_act]
    exact Nat.zero_add _
  · rintro off (rfl | rfl) later i hi
    · exact h.leaves later hi
    · exact h.leaves later hi

/-- A ringer still waits when the tone goes off and on again. -/
theorem first_ringer_leaves :
    let acts := [.start, .step 0, .start, .stop, .start, .step 1]
    let b := acts.foldl act {}
    b.Follows acts ∧ b.playing = true ∧ b.ringers.length = 2 ∧
      b.ringers[0]? = some ⟨.waiting, true, 1⟩ ∧
        b.ringers[1]? = some ⟨.waiting, false, 1⟩ ∧
      ∃ r', ([.start, .step 1, .step 0, .step 1, .step 0].foldl act
          (b.act .stop)).ringers[0]? = some r' ∧ r'.rings ≤ 2 ∧
          r'.phase = .gone := by
  intro acts b
  have h : b.Follows acts := follows_of_actions acts
  obtain ⟨r, r', hr, hr', -, hrings, -, hgone⟩ := h.leaves .stop (.inl rfl)
    [.start, .step 1, .step 0, .step 1, .step 0] 0 (by decide)
  obtain rfl : ⟨.waiting, true, 1⟩ = r := Option.some.inj hr
  exact ⟨h, by decide, h.ringers_count.trans (by decide), by decide, by decide,
    r', hr', hrings, hgone (by decide)⟩

end Bell

end Chip8
