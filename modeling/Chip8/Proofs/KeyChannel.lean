import Chip8.Proofs.CachedKeypad
import Chip8.Proofs.Course
import Mathlib.Data.List.Induction

/-!
# From the keys to the machine

Whoever watches the keys enqueues events, and a poll applies what is in the
queue. `Interleaving m₀ seen unseen m` says that some order of enqueued events,
polls and ticks takes `m₀` to `m`. The history is kept beside the machine and
does not look into its keypad: `seen` are the events that were enqueued before
the last poll, `unseen` those enqueued since. A poll from outside takes one
event after the other while others may go on enqueueing (`Keypad.Drains`); a
tick polls at its start, and goes on polling while it waits for a key.

The keypad holds nothing but this history (`Keypad.Heard`): it applied and
reported the events of `seen`, once and in order, and keeps those of `unseen`
in its queue. How the events were spread over polls leaves no trace, and a skip
on a key depends on the last event about that key.
-/

namespace Chip8

/-! ## Snapshots and the events behind them -/

namespace Snapshot

def after (events : List KeyEvent) : Snapshot :=
  events.foldl apply powerOn

@[simp] theorem after_nil : after [] = powerOn := rfl

theorem after_append (events events' : List KeyEvent) :
    after (events ++ events') = events'.foldl apply (after events) :=
  List.foldl_append

theorem after_concat (events : List KeyEvent) (e : KeyEvent) :
    after (events ++ [e]) = (after events).apply e :=
  after_append events [e]

/-- Whether a key is held after some events: the last event about it tells, and
where there is none, it is as before. -/
def heldAfter (s : Snapshot) (events : List KeyEvent) (key : Key) : Bool :=
  (((events.filter (·.key = key)).getLast?).map (·.down)).getD (s.isHeld key)

def lastAfter (s : Snapshot) (events : List KeyEvent) : Key :=
  (((events.filter (·.down)).getLast?).map (·.key)).getD s.last

theorem isHeld_foldl_apply (s : Snapshot) (events : List KeyEvent)
    (key : Key) :
    (events.foldl apply s).isHeld key = s.heldAfter events key := by
  induction events using List.reverseRecOn with
  | nil => rfl
  | append_singleton events e ih =>
      rw [List.foldl_append, List.foldl_cons, List.foldl_nil, isHeld_apply, ih]
      by_cases h : e.key = key
      · simp [heldAfter, h]
      · simp [heldAfter, h]

theorem last_foldl_apply (s : Snapshot) (events : List KeyEvent) :
    (events.foldl apply s).last = s.lastAfter events := by
  induction events using List.reverseRecOn with
  | nil => rfl
  | append_singleton events e ih =>
      rw [List.foldl_append, List.foldl_cons, List.foldl_nil, apply]
      cases h : e.down with
      | false => simpa [lastAfter, h] using ih
      | true => simp [lastAfter, h]

/-- Whether the last of some events about a key is a press. -/
def lastIsPress (events : List KeyEvent) (key : Key) : Bool :=
  ((events.filter (·.key = key)).getLast?).any (·.down)

/-- What a snapshot shows if exactly these events were applied, oldest
first. -/
structure Shows (s : Snapshot) (events : List KeyEvent) : Prop where
  held : s.held =
    events.foldl (fun held e => held.set e.key e.down e.key.isLt)
      (Vector.replicate 16 false)
  isHeld (key : Key) : s.isHeld key = lastIsPress events key
  last : s.last = (((events.filter (·.down)).getLast?).map (·.key)).getD 0
  heldCount : s.heldCount = s.held.toList.count true

theorem held_after (events : List KeyEvent) :
    (after events).held =
      events.foldl (fun held e => held.set e.key e.down e.key.isLt)
        (Vector.replicate 16 false) := by
  induction events using List.reverseRecOn with
  | nil => rfl
  | append_singleton events e ih =>
      rw [after_concat, List.foldl_append, ← ih]
      rfl

theorem isHeld_after (events : List KeyEvent) (key : Key) :
    (after events).isHeld key = lastIsPress events key := by
  rw [after, isHeld_foldl_apply, heldAfter, lastIsPress]
  cases (events.filter (·.key = key)).getLast? with
  | none => simp [powerOn, isHeld]
  | some e => rfl

theorem last_after (events : List KeyEvent) :
    (after events).last =
      (((events.filter (·.down)).getLast?).map (·.key)).getD 0 :=
  last_foldl_apply powerOn events

theorem shows_after (events : List KeyEvent) : (after events).Shows events :=
  ⟨held_after events, isHeld_after events, last_after events,
    heldCount_eq_count _⟩

end Snapshot

/-! ## Keypads and the events behind them -/

namespace Keypad

/-- A poll that is under way takes one event after the other, until it finds
the queue empty. `arriving` are the events that are enqueued meanwhile and
`taken` those that are applied, each in order. -/
inductive Drains : Keypad → List KeyEvent → List KeyEvent → Keypad → Prop
  | empty {s} : Drains ⟨[], s⟩ [] [] ⟨[], s⟩
  | arrive {k e arriving taken k'} : Drains (k.enqueue [e]) arriving taken k' →
      Drains k (e :: arriving) taken k'
  | take {e queue s arriving taken k'} :
      Drains ⟨queue, s.apply e⟩ arriving taken k' →
      Drains ⟨e :: queue, s⟩ arriving (e :: taken) k'

/-- Events that are enqueued while a poll is under way are applied by it, as if
they had been enqueued before. -/
theorem Drains.eq {k k' : Keypad} {arriving taken : List KeyEvent}
    (h : Drains k arriving taken k') :
    taken = k.queue ++ arriving ∧ k' = (k.enqueue arriving).poll := by
  induction h with
  | empty => exact ⟨rfl, rfl⟩
  | arrive _ ih =>
      obtain ⟨htaken, hk⟩ := ih
      exact ⟨by simp [htaken, enqueue], by simp [hk, enqueue]⟩
  | take _ ih =>
      obtain ⟨htaken, hk⟩ := ih
      exact ⟨by simp [htaken], by simp [hk, enqueue, poll]⟩

theorem drains_poll (k : Keypad) : Drains k [] k.queue k.poll := by
  obtain ⟨queue, s⟩ := k
  induction queue generalizing s with
  | nil => exact .empty
  | cons e queue ih => exact .take (ih (s.apply e))

/-- A wait applies the queued events and the batches up to the one that ends
it, in order. -/
theorem wait_eq (k : Keypad) (batches : List (List KeyEvent)) :
    ∃ n ≤ batches.length, (k.wait batches).arrivals = batches.drop n ∧
      (k.wait batches).keypad = (k.enqueue (batches.take n).flatten).poll ∧
      (k.wait batches).applied = k.queue ++ (batches.take n).flatten := by
  obtain ⟨n, hn, hwait, -⟩ := k.wait_spec batches
  exact ⟨n, hn, by rw [hwait], by rw [hwait], by rw [hwait]⟩

end Keypad

/-! ## The events that the machine reports -/

def Event.keyEvent? : Event → Option KeyEvent
  | .key e => some e
  | _ => none

namespace Core

variable {ρ : Type}

def keyReports (c : Core ρ) : List KeyEvent :=
  (c.events.filterMap Event.keyEvent?).reverse

def drained (c : Core ρ) (taken : List KeyEvent) (keypad : Keypad) : Core ρ :=
  { c with keypad, events := (taken.map .key).reverse ++ c.events }

theorem poll_eq_drained (c : Core ρ) :
    c.poll = c.drained c.keypad.queue c.keypad.poll := rfl

theorem filterMap_keyEvent?_map_key (events : List KeyEvent) :
    (events.map Event.key).filterMap Event.keyEvent? = events :=
  List.filterMap_map.trans List.filterMap_some

theorem keyReports_drained (c : Core ρ) (taken : List KeyEvent)
    (keypad : Keypad) :
    (c.drained taken keypad).keyReports = c.keyReports ++ taken := by
  rw [keyReports, drained, List.filterMap_append, List.filterMap_reverse,
    filterMap_keyEvent?_map_key, List.reverse_append, List.reverse_reverse]
  rfl

theorem keyReports_report (c : Core ρ) {e : Event} (h : e.keyEvent? = none) :
    (c.report e).keyReports = c.keyReports := by
  simp [keyReports, report, h]

@[simp] theorem keyReports_reportFault (c : Core ρ) (kind : AccessKind)
    (a : Int) :
    (c.reportFault kind a).keyReports = c.keyReports := by
  unfold reportFault
  split
  · exact keyReports_report c rfl
  · rfl

@[simp] theorem keyReports_readByte (c : Core ρ) (a : Int) :
    (c.readByte a).2.keyReports = c.keyReports :=
  keyReports_reportFault _ _ _

@[simp] theorem keyReports_writeByte (c : Core ρ) (a : Int) (b : UInt8) :
    (c.writeByte a b).keyReports = c.keyReports :=
  keyReports_reportFault _ _ _

theorem keyReports_readWord (c : Core ρ) (a : Int) :
    (c.readWord a).2.keyReports = c.keyReports :=
  (keyReports_readByte (c.readByte a).2 (a + 1)).trans
    (keyReports_readByte c a)

theorem keyReports_writeBytes (c : Core ρ) (base : Int) (data : List UInt8) :
    (c.writeBytes base data).keyReports = c.keyReports := by
  induction data generalizing c base with
  | nil => rfl
  | cons b rest ih => rw [writeBytes, ih, keyReports_writeByte]

theorem keyReports_storeRegs (c : Core ρ) (x : Register) :
    (c.storeRegs x).keyReports = c.keyReports := by
  unfold storeRegs
  refine List.foldlRecOn
    (motive := fun d : Core ρ => d.keyReports = c.keyReports) _ _ rfl ?_
  intro d hd r _
  rw [keyReports_writeByte, hd]

theorem keyReports_loadRegs (c : Core ρ) (x : Register) :
    (c.loadRegs x).keyReports = c.keyReports := by
  unfold loadRegs
  refine List.foldlRecOn
    (motive := fun d : Core ρ => d.keyReports = c.keyReports) _ _ rfl ?_
  intro d hd r _
  exact (keyReports_readByte d (d.indexed r.val)).trans hd

theorem keyReports_draw (c : Core ρ) (x y : UInt8) (n : Nibble) :
    (c.draw x y n).keyReports = c.keyReports := by
  have hrows : ((List.range n.val).foldl (drawRow x y)
      (c, ⟨c.screen.frame, false⟩)).1.keyReports = c.keyReports := by
    refine List.foldlRecOn (motive := fun s : Core ρ × Sprite.Drawing =>
      s.1.keyReports = c.keyReports) _ _ rfl ?_
    intro s hs r _
    exact (keyReports_readByte s.1 (s.1.indexed r)).trans hs
  exact hrows

theorem keyReports_of_execute [RandomSource ρ] {c c' : Core ρ}
    {shiftUsesVy : Bool} {i : Instruction} (hi : i.operation ≠ .waitKey)
    (h : c.execute shiftUsesVy i = .done c') :
    c'.keyReports = c.keyReports := by
  cases i with
  | waitKey x => exact absurd rfl hi
  | readDelay x =>
      obtain ⟨b, -, rfl⟩ := readDelay_eq_done_iff.mp h
      rfl
  | draw x y n =>
      cases h
      exact keyReports_draw c _ _ n
  | storeDecimal x =>
      cases h
      simp [storeDecimal]
  | storeRegs x =>
      cases h
      exact keyReports_storeRegs c x
  | loadRegs x =>
      cases h
      exact keyReports_loadRegs c x
  | system nnn =>
      cases h
      exact keyReports_report c rfl
  | _ =>
      cases h
      rfl

theorem keyReports_waited (c : Core ρ) (x : Register) :
    (c.waited x).keyReports =
      c.keyReports ++ (c.keypad.wait c.arrivals).applied := by
  have h :=
    keyReports_drained (c.report (.waiting x))
      (c.keypad.wait c.arrivals).applied
    (c.keypad.wait c.arrivals).keypad
  rw [keyReports_report c rfl] at h
  exact h

end Core

/-! ## Interleavings -/

def Stimulus.keyEvents : Stimulus → List KeyEvent
  | .press key => [⟨Key.ofInt key, true⟩]
  | .release key => [⟨Key.ofInt key, false⟩]
  | .load _ _ _ | .expect _ => []

namespace Machine

variable {ρ δ : Type}

/-- The key events that arrived while the tick from `m` to `m'` waited for a
key: the batches that are not expected any longer. -/
def arrivedBy (m m' : Machine ρ δ) : List KeyEvent :=
  (m.core.arrivals.take
    (m.core.arrivals.length - m'.core.arrivals.length)).flatten

/-- Some order of enqueued events, polls and ticks takes `m₀` to `m`. The first
list holds the events that were enqueued before the last poll, the second one
those enqueued since. -/
inductive Interleaving [RandomSource ρ] [Devices δ] (m₀ : Machine ρ δ) :
    List KeyEvent → List KeyEvent → Machine ρ δ → Prop
  | start : Interleaving m₀ [] [] m₀
  | outside {seen unseen m} (s : Stimulus) : Interleaving m₀ seen unseen m →
      Interleaving m₀ seen (unseen ++ s.keyEvents) (m.respond s)
  | poll {seen unseen m arriving taken keypad} :
      Interleaving m₀ seen unseen m →
      m.core.keypad.Drains arriving taken keypad →
      Interleaving m₀ (seen ++ unseen ++ arriving) []
        (m.mapCore (·.drained taken keypad))
  | tick {seen unseen m m' i?} : Interleaving m₀ seen unseen m →
    m.step = .done i? m' →
      Interleaving m₀ (seen ++ unseen ++ m.arrivedBy m') [] m'

/-- What the keypad of a machine heard since `m₀`, where no key was held: the
events of `seen` are applied and reported, those of `unseen` are queued. -/
structure Heard (m₀ : Machine ρ δ) (seen unseen : List KeyEvent) (c : Core ρ) :
    Prop where
  reports : c.keyReports = m₀.core.keyReports ++ seen
  queue : c.keypad.queue = unseen
  snapshot : c.keypad.snapshot = Snapshot.after seen

section Heard

variable {m₀ m m' : Machine ρ δ} {seen unseen : List KeyEvent} {c : Core ρ}

theorem Heard.drained (h : Heard m₀ seen unseen c) (arriving : List KeyEvent) :
    Heard m₀ (seen ++ unseen ++ arriving) []
      (c.drained (c.keypad.queue ++ arriving)
        (c.keypad.enqueue arriving).poll) := by
  refine ⟨?_, rfl, ?_⟩
  · rw [Core.keyReports_drained, h.reports, h.queue]
    simp
  · rw [List.append_assoc, Snapshot.after_append, ← h.snapshot, ← h.queue]
    rfl

theorem Heard.respond (h : Heard m₀ seen unseen m.core) (s : Stimulus) :
    Heard m₀ seen (unseen ++ s.keyEvents) (m.respond s).core := by
  cases s with
  | load name base data =>
      have hreports :
          (m.load name base data).core.keyReports = m.core.keyReports :=
        (Core.keyReports_report _ rfl).trans
          (Core.keyReports_writeBytes m.core base data)
      obtain ⟨_, _, hwrite⟩ := m.core.writeBytes_eq base data
      have hkeypad : (m.load name base data).core.keypad = m.core.keypad := by
        simp [load, mapCore, Core.report, hwrite]
      refine ⟨hreports.trans h.reports, ?_, ?_⟩
      · simpa [Machine.respond, hkeypad, Stimulus.keyEvents] using h.queue
      · simpa [Machine.respond, hkeypad] using h.snapshot
  | press key | release key =>
      exact ⟨h.reports, congrArg (· ++ _) h.queue, h.snapshot⟩
  | expect batches =>
      exact ⟨h.reports, h.queue.trans (List.append_nil unseen).symm,
        h.snapshot⟩

theorem Heard.fetched (h : Heard m₀ seen unseen m.core) :
    Heard m₀ (seen ++ unseen) [] m.fetched := by
  have hpoll := h.drained []
  obtain ⟨_, _, hf⟩ := m.fetched_eq
  have hreports : m.fetched.keyReports = m.core.poll.keyReports :=
    Core.keyReports_readWord m.core.poll m.core.registers.pc
  refine ⟨?_, by rw [hf]; rfl, ?_⟩
  · rw [hreports, Core.poll_eq_drained, Core.keyReports_drained, h.reports,
      h.queue, List.append_assoc]
  · rw [hf, Snapshot.after_append, ← h.snapshot, ← h.queue]
    rfl

theorem Heard.waited (h : Heard m₀ seen [] c) (x : Register) :
    ∃ n ≤ c.arrivals.length, (c.waited x).arrivals = c.arrivals.drop n ∧
      Heard m₀ (seen ++ (c.arrivals.take n).flatten) [] (c.waited x) := by
  obtain ⟨n, hn, harrivals, hkeypad, happlied⟩ := c.keypad.wait_eq c.arrivals
  have hdrained := h.drained (c.arrivals.take n).flatten
  rw [List.append_nil] at hdrained
  refine ⟨n, hn, harrivals, ?_, ?_, ?_⟩
  · rw [Core.keyReports_waited, happlied, h.reports, h.queue, List.nil_append,
      List.append_assoc]
  · exact (congrArg Keypad.queue hkeypad).trans hdrained.queue
  · exact (congrArg Keypad.snapshot hkeypad).trans hdrained.snapshot

variable [RandomSource ρ]

theorem operation?_of_stalled (h : m.outcome = .stalled c) :
    m.operation? = some .waitKey := by
  cases hi : m.instruction? with
  | none => simp [Machine.outcome, hi] at h
  | some i =>
      rw [Machine.outcome, hi] at h
      obtain ⟨x, rfl, -⟩ := Core.execute_eq_stalled_iff.mp h
      simp [operation?, hi, Instruction.operation]

/-- By the end of a wait, whether a key was found or not, the keypad also heard
what arrived meanwhile. -/
theorem Heard.afterWait (h : Heard m₀ seen unseen m.core) {x : Register}
    (hi : m.instruction? = some (.waitKey x))
    (ho : m.outcome = .done m.afterInstruction ∨
      m.outcome = .stalled m.afterInstruction) :
    ∃ n ≤ m.core.arrivals.length,
      m.afterInstruction.arrivals = m.core.arrivals.drop n ∧
      Heard m₀ (seen ++ unseen ++ (m.core.arrivals.take n).flatten) []
        m.afterInstruction := by
  obtain ⟨n, hn, hdrop, hheard⟩ := h.fetched.waited x
  rw [fetched_arrivals] at hn hdrop hheard
  have hafter : m.afterInstruction = m.fetched.waited x ∨
      ∃ key, m.afterInstruction = (m.fetched.waited x).set x key := by
    rw [Machine.outcome, hi] at ho
    rcases ho with ho | ho
    · obtain ⟨key, -, hkey⟩ := Core.waitKey_eq_done_iff.mp ho
      exact .inr ⟨_, hkey⟩
    · exact .inl (Core.waitKey_eq_stalled_iff.mp ho).2
  refine ⟨n, hn, ?_, ?_⟩
  · rcases hafter with hafter | ⟨key, hafter⟩ <;> rw [hafter] <;> exact hdrop
  · rcases hafter with hafter | ⟨key, hafter⟩ <;> rw [hafter] <;>
      exact ⟨hheard.reports, hheard.queue, hheard.snapshot⟩

theorem Heard.afterOther (h : Heard m₀ seen unseen m.core)
    (hwait : m.operation? ≠ some .waitKey)
    (hdone : m.outcome = .done m.afterInstruction) :
    m.afterInstruction.arrivals = m.core.arrivals ∧
      Heard m₀ (seen ++ unseen) [] m.afterInstruction := by
  have hfetched := h.fetched
  obtain ⟨hkeypad, hsame⟩ := (footprint_of_outcome hdone).keypad hwait
  have hreports : m.afterInstruction.keyReports = m.fetched.keyReports := by
    cases hi : m.instruction? with
    | none =>
        rw [afterInstruction_of_none hi]
        exact Core.keyReports_report _ rfl
    | some i =>
        refine Core.keyReports_of_execute (fun hop => hwait ?_)
          (execute_of_outcome hdone hi)
        simp [operation?, hi, hop]
  exact ⟨hsame.trans m.fetched_arrivals, hreports.trans hfetched.reports,
    by rw [hkeypad, hfetched.queue], by rw [hkeypad, hfetched.snapshot]⟩

/-- What the keypad heard by the end of an instruction: nothing but what
arrived during a wait is added. -/
theorem Heard.afterInstruction (h : Heard m₀ seen unseen m.core)
    (ho : m.outcome = .done m.afterInstruction ∨
      m.outcome = .stalled m.afterInstruction) :
    ∃ n ≤ m.core.arrivals.length,
      m.afterInstruction.arrivals = m.core.arrivals.drop n ∧
      (m.operation? ≠ some .waitKey → n = 0) ∧
      Heard m₀ (seen ++ unseen ++ (m.core.arrivals.take n).flatten) []
        m.afterInstruction := by
  by_cases hwait : m.operation? = some .waitKey
  · obtain ⟨i, hi, hop⟩ := Option.map_eq_some_iff.mp hwait
    obtain ⟨x, rfl⟩ : ∃ x, i = .waitKey x := by
      cases i <;> simp only [Instruction.operation, reduceCtorEq] at hop
      exact ⟨_, rfl⟩
    obtain ⟨n, hn, hdrop, hheard⟩ := h.afterWait hi ho
    exact ⟨n, hn, hdrop, fun hne => absurd hwait hne, hheard⟩
  · have hdone : m.outcome = .done m.afterInstruction :=
      ho.resolve_right fun hstall => hwait (operation?_of_stalled hstall)
    obtain ⟨hsame, hheard⟩ := h.afterOther hwait hdone
    refine ⟨0, Nat.zero_le _, hsame, fun _ => rfl, ?_⟩
    rw [List.take_zero, List.flatten_nil, List.append_nil]
    exact hheard

end Heard

section Interleaving

variable [RandomSource ρ] [Devices δ] {m₀ m m' : Machine ρ δ}
  {seen unseen : List KeyEvent}

omit [RandomSource ρ] in
theorem withOutcome_finishTick_keys (c : Core ρ) :
    ((m.withOutcome c).finishTick.core.keyReports = c.keyReports) ∧
      (m.withOutcome c).finishTick.core.keypad = c.keypad ∧
      (m.withOutcome c).finishTick.core.arrivals = c.arrivals := by
  obtain ⟨_, -, hf⟩ := finishTick_eq_framesDue (m.withOutcome c)
  rw [hf, withOutcome_core, Core.endFrame_iterate]
  exact ⟨rfl, rfl, rfl⟩

theorem Heard.step (h : Heard m₀ seen unseen m.core)
    (hs : (∃ i?, m.step = .done i? m') ∨ m.step = .stalled m') :
    Heard m₀ (seen ++ unseen ++ m.arrivedBy m') [] m'.core ∧
      (m.operation? ≠ some .waitKey → m.arrivedBy m' = []) := by
  have hends :
      (m.outcome = .done m.afterInstruction ∨
        m.outcome = .stalled m.afterInstruction) ∧
      m'.core.keyReports = m.afterInstruction.keyReports ∧
      m'.core.keypad = m.afterInstruction.keypad ∧
      m'.core.arrivals = m.afterInstruction.arrivals := by
    rcases hs with ⟨i?, hs⟩ | hs
    · obtain ⟨ho, -, rfl⟩ := step_eq_done_iff.mp hs
      exact ⟨.inl ho, withOutcome_finishTick_keys _⟩
    · rw [step_eq] at hs
      unfold Machine.afterInstruction
      cases ho : m.outcome with
      | done c => simp [ho] at hs
      | unfit c => simp [ho] at hs
      | stalled c =>
          simp only [ho, Tick.stalled.injEq] at hs
          subst hs
          exact ⟨.inr rfl, by simp [Outcome.value]⟩
  obtain ⟨ho, hreports, hkeypad, harrivals⟩ := hends
  obtain ⟨n, hn, hdrop, hnone, hheard⟩ := h.afterInstruction ho
  have harrived : m.arrivedBy m' = (m.core.arrivals.take n).flatten := by
    rw [arrivedBy, harrivals, hdrop, List.length_drop, Nat.sub_sub_self hn]
  rw [harrived]
  refine ⟨⟨hreports.trans hheard.reports, by rw [hkeypad, hheard.queue],
    by rw [hkeypad, hheard.snapshot]⟩, ?_⟩
  intro hwait
  rw [hnone hwait, List.take_zero, List.flatten_nil]

/-- A keypad that starts without a key held holds its history and nothing
else. -/
theorem Interleaving.heard (h : Interleaving m₀ seen unseen m)
    (hk : m₀.core.keypad = Keypad.powerOn) : Heard m₀ seen unseen m.core := by
  induction h with
  | start => exact ⟨by simp, by rw [hk]; rfl, by rw [hk]; rfl⟩
  | outside s _ ih => exact ih.respond s
  | poll _ hdrains ih =>
      obtain ⟨rfl, rfl⟩ := hdrains.eq
      exact ih.drained _
  | tick _ hs ih => exact (ih.step (.inl ⟨_, hs⟩)).1

omit [RandomSource ρ] [Devices δ] in
theorem Heard.keyHeld_fetched (h : Heard m₀ seen unseen m.core)
    (x : Register) :
    m.fetched.keyHeld x =
      Snapshot.lastIsPress (seen ++ unseen)
        (Key.ofInt (m.core.registers.get x).toNat) := by
  rw [Core.keyHeld, h.fetched.snapshot, Snapshot.isHeld_after, Core.get,
    fetched_get]

theorem step_of_skipIf {i : Instruction} (condition : Bool)
    (hi : m.instruction? = some i)
    (he : m.fetched.execute m.config.shiftUsesVy i =
      .done (m.fetched.skipIf condition)) :
    ∃ m', m.step = .done (some i) m' ∧
      m'.core.registers.pc =
        (m.core.registers.pc + if condition then 4 else 2) % 65536 := by
  have ho : m.outcome = .done (m.fetched.skipIf condition) := by
    rw [outcome, hi]
    exact he
  have hafter : m.afterInstruction = m.fetched.skipIf condition := by
    rw [afterInstruction, ho]
    rfl
  have hs := step_eq_done_iff.mpr ⟨hafter ▸ ho, rfl, rfl⟩
  refine ⟨_, hi ▸ hs, ?_⟩
  rw [core_of_step hs, hafter, Core.endFrame_iterate]
  cases condition with
  | false =>
      have hpc : (m.fetched.skipIf false).registers.pc =
          Registers.wrap16 (m.core.registers.pc + 2) :=
        m.fetched_pc
      exact hpc
  | true =>
      have hpc : (m.fetched.skipIf true).registers.pc =
          Registers.wrap16 (m.fetched.registers.pc + 2) := rfl
      change (m.fetched.skipIf true).registers.pc = _
      rw [hpc, fetched_pc, Registers.wrap16, Registers.wrap16, if_pos rfl]
      omega

/-- The key events reach the machine each once and in order, however they mix
with polls and ticks. Between polls nothing changes what is seen of the keys;
what is seen after a poll depends on all events so far and their order, and not
on the polls before; and a tick that skips on a key goes by the last event
about it. -/
theorem keys_of_interleaving (hk : m₀.core.keypad = Keypad.powerOn)
    (h : Interleaving m₀ seen unseen m) :
    (m.core.keyReports = m₀.core.keyReports ++ seen ∧
      m.core.keypad.queue = unseen ∧ m.core.keypad.snapshot.Shows seen) ∧
      (∀ s, (m.respond s).core.keypad.snapshot = m.core.keypad.snapshot) ∧
      (∀ m', (∃ i?, m.step = .done i? m') ∨ m.step = .stalled m' →
        m'.core.keypad.queue = [] ∧
          m'.core.keypad.snapshot.Shows (seen ++ unseen ++ m.arrivedBy m') ∧
          (m.operation? ≠ some .waitKey → m.arrivedBy m' = [])) ∧
      (∀ {k₀ k : Machine ρ δ} {seen' unseen'},
        k₀.core.keypad = Keypad.powerOn →
        Interleaving k₀ seen' unseen' k → seen' ++ unseen' = seen ++ unseen →
        k.core.keypad.poll = m.core.keypad.poll) ∧
      (∀ x pressed, pressed = Snapshot.lastIsPress (seen ++ unseen)
          (Key.ofInt (m.core.registers.get x).toNat) →
        (m.instruction? = some (.skipKey x) → ∃ m',
          m.step = .done (some (.skipKey x)) m' ∧ m'.core.registers.pc =
            (m.core.registers.pc + if pressed then 4 else 2) % 65536) ∧
        (m.instruction? = some (.skipNotKey x) →
          ∃ m', m.step = .done (some (.skipNotKey x)) m' ∧
          m'.core.registers.pc =
            (m.core.registers.pc + if pressed then 2 else 4) % 65536)) := by
  have hheard := h.heard hk
  refine ⟨⟨hheard.reports, hheard.queue, ?_⟩, ?_, ?_, ?_, ?_⟩
  · rw [hheard.snapshot]
    exact Snapshot.shows_after seen
  · intro s
    rw [hheard.snapshot, (hheard.respond s).snapshot]
  · intro m' hs
    obtain ⟨hstep, hnone⟩ := hheard.step hs
    refine ⟨hstep.queue, ?_, hnone⟩
    rw [hstep.snapshot]
    exact Snapshot.shows_after _
  · intro k₀ k seen' unseen' hk₀ h' hsame
    have hheard' := h'.heard hk₀
    rw [Keypad.poll, Keypad.poll, hheard.queue, hheard'.queue, hheard.snapshot,
      hheard'.snapshot, ← Snapshot.after_append, ← Snapshot.after_append,
      hsame]
  · rintro x pressed rfl
    rw [← hheard.keyHeld_fetched x]
    refine ⟨fun hi => step_of_skipIf _ hi rfl, fun hi => ?_⟩
    obtain ⟨m', hs, hpc⟩ := step_of_skipIf (!m.fetched.keyHeld x) hi rfl
    refine ⟨m', hs, hpc.trans ?_⟩
    cases m.fetched.keyHeld x <;> rfl

/-- A key that goes down while a poll is under way, and up and down again after
it. -/
theorem skip_after_racing_press :
    let m₀ : Machine CycledBytes (List Signal) := powerOn {} ⟨[], []⟩ []
    let m₁ := (m₀.respond (.load "skip" 512 [0xE0, 0x9E])).respond (.press 5)
    let m₂ := m₁.mapCore
      (·.drained [⟨5, true⟩, ⟨0, true⟩]
        (m₁.core.keypad.enqueue [⟨0, true⟩]).poll)
    let m := (m₂.respond (.release 16)).respond (.press (-16))
    Interleaving m₀ [⟨Key.ofInt 5, true⟩, ⟨0, true⟩]
        [⟨Key.ofInt 16, false⟩, ⟨Key.ofInt (-16), true⟩] m ∧
      ∃ m', m.step = .done (some (.skipKey 0)) m' ∧
        m'.core.registers.pc = 516 := by
  intro m₀ m₁ m₂ m
  have hdrains : m₁.core.keypad.Drains [⟨0, true⟩] [⟨5, true⟩, ⟨0, true⟩]
      (m₁.core.keypad.enqueue [⟨0, true⟩]).poll :=
        .take (.arrive (.take .empty))
  have h₁ : Interleaving m₀ [] [⟨Key.ofInt 5, true⟩] m₁ :=
    (Interleaving.start.outside (.load "skip" 512 [0xE0, 0x9E])).outside
      (.press 5)
  have h₂ : Interleaving m₀ [⟨Key.ofInt 5, true⟩, ⟨0, true⟩] [] m₂ :=
    h₁.poll hdrains
  have h : Interleaving m₀ [⟨Key.ofInt 5, true⟩, ⟨0, true⟩]
      [⟨Key.ofInt 16, false⟩, ⟨Key.ofInt (-16), true⟩] m :=
    (h₂.outside (.release 16)).outside (.press (-16))
  have hskip := (keys_of_interleaving rfl h).2.2.2.2 0 true (by decide +kernel)
  exact ⟨h, hskip.1 (by decide +kernel)⟩

end Interleaving

end Machine

end Chip8
