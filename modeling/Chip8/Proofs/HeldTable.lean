import Chip8.Proofs.HeldKeys

/-!
# What the held table remembers

The held table forgets: a keystroke for a held key overwrites its deadline, and
a key that is released leaves no trace. `KeySource.Remembers` is what it still
knows after any acts, at whatever times. The deadline of an entry is that of
the last keystroke for its key, and a key is held if the deadline of its last
keystroke was due at none of the releases.

The table is in the order in which the holds began that are not over
(`KeySource.HeldSince`).
-/

namespace Chip8

namespace KeyAct

variable {τ : Type}

def time? : KeyAct τ → Option τ
  | typed _ now | expire now => some now
  | poll => none

/-- The time of a keystroke for a key: a character was typed that does not ask
to quit, and its lower-case form is mapped to the key. -/
def stroke? (map : KeyMap) (key : Int) : KeyAct τ → Option τ
  | typed char now =>
    if char ∉ quitKeys ∧ map.lookup (Text.lower char) = some key then
      some now
    else none
  | expire _ | poll => none

def times (acts : List (KeyAct τ)) : List τ :=
  acts.filterMap time?

def strokes (map : KeyMap) (key : Int) (acts : List (KeyAct τ)) : List τ :=
  acts.filterMap (stroke? map key)

theorem times_append (acts acts' : List (KeyAct τ)) :
    times (acts ++ acts') = times acts ++ times acts' :=
  List.filterMap_append

theorem times_subset_append (acts acts' : List (KeyAct τ)) :
    times acts ⊆ times (acts ++ acts') := by
  rw [times_append]
  exact List.subset_append_left _ _

theorem strokes_append (map : KeyMap) (key : Int)
    (acts acts' : List (KeyAct τ)) :
    strokes map key (acts ++ acts') = strokes map key acts ++
      strokes map key acts' :=
  List.filterMap_append

theorem getLast?_strokes_concat (map : KeyMap) (key : Int)
    (acts : List (KeyAct τ)) (a : KeyAct τ) :
    (strokes map key (acts ++ [a])).getLast? =
      (a.stroke? map key).or (strokes map key acts).getLast? := by
  rw [strokes_append, List.getLast?_append]
  cases h : a.stroke? map key <;> simp [strokes, h]

end KeyAct

namespace KeySource

open KeyAct

variable {τ : Type}

def act (p : HoldPolicy τ) (s : KeySource τ) : KeyAct τ → KeySource τ
  | .typed char now => (s.feed p char now).1
  | .expire now => (s.expire p now).1
  | .poll => s

def after (p : HoldPolicy τ) (s : KeySource τ) (acts : List (KeyAct τ)) :
    KeySource τ :=
  acts.foldl (act p) s

@[simp] theorem after_nil (p : HoldPolicy τ) (s : KeySource τ) :
    s.after p [] = s := rfl

theorem after_append (p : HoldPolicy τ) (s : KeySource τ)
    (acts acts' : List (KeyAct τ)) :
    s.after p (acts ++ acts') = (s.after p acts).after p acts' :=
  List.foldl_append

theorem after_concat (p : HoldPolicy τ) (s : KeySource τ)
    (acts : List (KeyAct τ)) (a : KeyAct τ) :
    s.after p (acts ++ [a]) = (s.after p acts).act p a :=
  after_append p s acts [a]

theorem keyMap_act (p : HoldPolicy τ) (s : KeySource τ) (a : KeyAct τ) :
    (s.act p a).keyMap = s.keyMap := by
  cases a with
  | typed char now => exact keyMap_feed p s char now
  | expire _ | poll => rfl

theorem keyMap_after (p : HoldPolicy τ) (s : KeySource τ)
    (acts : List (KeyAct τ)) :
    (s.after p acts).keyMap = s.keyMap := by
  induction acts using List.reverseRecOn with
  | nil => rfl
  | append_singleton acts a ih => rw [after_concat, keyMap_act, ih]

theorem mem_held_hold {s : KeySource τ} {key : Int} {deadline : τ}
    {h : Held τ} :
    h ∈ (s.hold key deadline).held ↔
      h = ⟨key, deadline⟩ ∨ h ∈ s.held ∧ h.key ≠ key := by
  unfold hold
  split
  next hheld =>
    obtain ⟨old, hold, hkey⟩ : ∃ old ∈ s.held, old.key = key := by
      simpa [isHeld] using hheld
    simp only [List.mem_map]
    constructor
    · rintro ⟨g, hg, rfl⟩
      split
      · exact .inl rfl
      · exact .inr ⟨hg, by assumption⟩
    · rintro (rfl | ⟨hmem, hne⟩)
      · exact ⟨old, hold, if_pos hkey⟩
      · exact ⟨h, hmem, if_neg hne⟩
  next hheld =>
    have hnone : ∀ g ∈ s.held, g.key ≠ key := by simpa [isHeld] using hheld
    simp only [List.mem_append, List.mem_singleton]
    constructor
    · rintro (hmem | rfl)
      · exact .inr ⟨hmem, hnone h hmem⟩
      · exact .inl rfl
    · rintro (rfl | ⟨hmem, -⟩)
      · exact .inr rfl
      · exact .inl hmem

theorem mem_keys_of_mem_held {s : KeySource τ} {h : Held τ}
    (hmem : h ∈ s.held) :
    h.key ∈ s.keys :=
  List.mem_map_of_mem hmem

theorem mem_held_expire {p : HoldPolicy τ} {s : KeySource τ} {now : τ}
    {h : Held τ} :
    h ∈ (s.expire p now).1.held ↔
      h ∈ s.held ∧ p.due now h.deadline = false := by
  simp [expire]

/-! ## What the table knows -/

/-- What is true of the held table after some acts, at whatever times. -/
structure Remembers (p : HoldPolicy τ) (acts : List (KeyAct τ))
    (s : KeySource τ) : Prop where
  nodup : s.keys.Nodup
  deadline : ∀ h ∈ s.held, ∃ struck,
    (strokes s.keyMap h.key acts).getLast? = some struck ∧
    h.deadline = p.deadline struck
  held (key : Int) (struck : τ) :
    (strokes s.keyMap key acts).getLast? = some struck →
    (∀ now ∈ times acts, p.due now (p.deadline struck) = false) → key ∈ s.keys

theorem Remembers.start (p : HoldPolicy τ) {s : KeySource τ}
    (h : s.held = []) :
    Remembers p [] s := by
  constructor
  · simp [keys, h]
  · simp [h]
  · rintro key struck ⟨⟩

/-- An act that is no keystroke makes no entry, and drops only entries that are
due. -/
theorem Remembers.of_no_stroke {p : HoldPolicy τ} {acts : List (KeyAct τ)}
    {a : KeyAct τ} {s s' : KeySource τ} (h : Remembers p acts s)
    (hmap : s'.keyMap = s.keyMap)
    (hnone : ∀ key, a.stroke? s.keyMap key = none) (hnodup : s'.keys.Nodup)
    (hsub : ∀ e ∈ s'.held, e ∈ s.held)
    (hkept : ∀ e ∈ s.held, (∀ now ∈ a.time?, p.due now e.deadline = false) →
      e ∈ s'.held) :
    Remembers p (acts ++ [a]) s' := by
  have hlast (key : Int) : (strokes s'.keyMap key (acts ++ [a])).getLast? =
      (strokes s.keyMap key acts).getLast? := by
    rw [hmap, getLast?_strokes_concat, hnone, Option.none_or]
  refine ⟨hnodup, ?_, ?_⟩
  · intro e he
    rw [hlast]
    exact h.deadline e (hsub e he)
  · intro key struck hstruck hdue
    rw [hlast] at hstruck
    have hkey := h.held key struck hstruck fun now hnow =>
      hdue now (times_subset_append acts [a] hnow)
    obtain ⟨e, he, rfl⟩ := List.mem_map.mp hkey
    obtain ⟨struck', hstruck', hdeadline⟩ := h.deadline e he
    obtain rfl : struck = struck' :=
      Option.some.inj (hstruck.symm.trans hstruck')
    refine mem_keys_of_mem_held (hkept e he fun now hnow => ?_)
    rw [hdeadline]
    refine hdue now ?_
    rw [times_append]
    exact List.mem_append_right _ (by simpa [times] using hnow)

theorem Remembers.hold {p : HoldPolicy τ} {acts : List (KeyAct τ)}
    {a : KeyAct τ} {s : KeySource τ} (h : Remembers p acts s) {key : Int}
    {now : τ}
    (hstroke : ∀ k, a.stroke? s.keyMap k = if k = key then some now else none)
    (hnodup : (s.hold key (p.deadline now)).keys.Nodup) :
    Remembers p (acts ++ [a]) (s.hold key (p.deadline now)) := by
  have hlast (k : Int) : (strokes s.keyMap k (acts ++ [a])).getLast? =
      if k = key then some now else (strokes s.keyMap k acts).getLast? := by
    rw [getLast?_strokes_concat, hstroke]
    split <;> rfl
  refine ⟨hnodup, ?_, ?_⟩
  · intro e he
    rw [keyMap_hold, hlast]
    rcases mem_held_hold.mp he with rfl | ⟨hmem, hne⟩
    · exact ⟨now, if_pos rfl, rfl⟩
    · rw [if_neg hne]
      exact h.deadline e hmem
  · intro k struck hstruck hdue
    rw [keyMap_hold, hlast] at hstruck
    by_cases hk : k = key
    · subst hk
      exact mem_keys_of_mem_held (mem_held_hold.mpr (.inl rfl))
    · rw [if_neg hk] at hstruck
      have hkey := h.held k struck hstruck fun now hnow =>
        hdue now (times_subset_append acts [a] hnow)
      obtain ⟨e, he, rfl⟩ := List.mem_map.mp hkey
      exact mem_keys_of_mem_held (mem_held_hold.mpr (.inr ⟨he, hk⟩))

theorem Remembers.act {p : HoldPolicy τ} {acts : List (KeyAct τ)}
    {s : KeySource τ} (h : Remembers p acts s) (a : KeyAct τ) :
    Remembers p (acts ++ [a]) (s.act p a) := by
  cases a with
  | typed char now =>
      have hnodup := nodup_keys_feed p h.nodup char now
      change Remembers p _ (s.feed p char now).1
      rcases s.feed_cases p char now
        with ⟨hquit, -, hfeed⟩ | ⟨-, hkey, -, hfeed⟩ |
        ⟨key, hquit, hkey, -, hfeed⟩
      · rw [hfeed] at hnodup ⊢
        exact h.of_no_stroke rfl
          (fun key => if_neg fun hstroke => hstroke.1 hquit) hnodup
          (fun e he => he) fun e he _ => he
      · rw [hfeed] at hnodup ⊢
        refine h.of_no_stroke rfl (fun key => if_neg fun hstroke => ?_) hnodup
          (fun e he => he) fun e he _ => he
        cases hkey.symm.trans hstroke.2
      · rw [hfeed] at hnodup ⊢
        refine h.hold (fun k => ?_) hnodup
        have hlookup : s.keyMap.lookup (Text.lower char) = some key := hkey
        simp only [stroke?, hquit, hlookup, not_false_eq_true, true_and,
          Option.some.injEq]
        exact if_congr eq_comm rfl rfl
  | expire now =>
      refine h.of_no_stroke rfl (fun _ => rfl)
        (h.nodup.sublist (s.keys_expire_sublist p now)) ?_ ?_
      · exact fun e he => (mem_held_expire.mp he).1
      · exact fun e he hdue => mem_held_expire.mpr ⟨he, hdue now rfl⟩
  | poll =>
      exact h.of_no_stroke rfl (fun _ => rfl) h.nodup
        (fun e he => he) fun e he _ => he

theorem Remembers.after {p : HoldPolicy τ} {s : KeySource τ}
    (h : Remembers p [] s) (acts : List (KeyAct τ)) :
    Remembers p acts (s.after p acts) := by
  induction acts using List.reverseRecOn with
  | nil => exact h
  | append_singleton acts a ih =>
      rw [after_concat]
      exact ih.act a

/-! ## The order of the table -/

/-- The hold of a key that is not over began with act number `n`, a keystroke
for it: the key was not held before it, and has been held ever since. -/
structure HeldSince (p : HoldPolicy τ) (s : KeySource τ)
    (acts : List (KeyAct τ)) (key : Int) (n : Nat) : Prop where
  stroke : ∃ a ∈ acts[n]?, ∃ now, a.stroke? s.keyMap key = some now
  before : key ∉ (s.after p (acts.take n)).keys
  since (j : Nat) :
    n < j → j ≤ acts.length → key ∈ (s.after p (acts.take j)).keys

theorem HeldSince.lt_length {p : HoldPolicy τ} {s : KeySource τ}
    {acts : List (KeyAct τ)} {key : Int} {n : Nat}
    (h : s.HeldSince p acts key n) : n < acts.length := by
  obtain ⟨a, ha, -⟩ := h.stroke
  exact (List.getElem?_eq_some_iff.mp ha).1

theorem HeldSince.concat {p : HoldPolicy τ} {s : KeySource τ}
    {acts : List (KeyAct τ)} {key : Int} {n : Nat}
    (h : s.HeldSince p acts key n) {a : KeyAct τ}
    (hkey : key ∈ (s.after p (acts ++ [a])).keys) :
    s.HeldSince p (acts ++ [a]) key n := by
  have hn := h.lt_length
  refine ⟨?_, ?_, ?_⟩
  · rw [List.getElem?_append_left hn]
    exact h.stroke
  · rw [List.take_append_of_le_length (Nat.le_of_lt hn)]
    exact h.before
  · intro j hj hlength
    by_cases hlast : j ≤ acts.length
    · rw [List.take_append_of_le_length hlast]
      exact h.since j hj hlast
    · rwa [List.take_of_length_le (by simp; omega)]

theorem heldSince_of_pressedBy {p : HoldPolicy τ} {s : KeySource τ}
    {acts : List (KeyAct τ)} {key : Int} {char : String} {now : τ}
    (h : key ∈ (s.after p acts).pressedBy char) :
    s.HeldSince p (acts ++ [.typed char now]) key acts.length := by
  obtain ⟨hheld, hkey⟩ := mem_pressedBy h
  have hquit : char ∉ quitKeys := by
    rintro hquit
    rw [pressedBy, if_pos hquit] at h
    exact List.not_mem_nil h
  rw [keyOf?, keyMap_after] at hkey
  refine ⟨⟨.typed char now, by simp, now, if_pos ⟨hquit, hkey⟩⟩, ?_, ?_⟩
  · rw [List.take_left, ← isHeld_iff, hheld]
    exact Bool.false_ne_true
  · intro j hj hlength
    rw [List.take_of_length_le (by simp; omega), after_concat]
    change key ∈ ((s.after p acts).feed p char now).1.keys
    rw [keys_feed]
    exact List.mem_append_right _ h

/-- The table is in the order in which the holds began that are not over. -/
def InOrderOfHolds (p : HoldPolicy τ) (s : KeySource τ)
    (acts : List (KeyAct τ)) : Prop :=
  ∃ began : Int → Nat,
    (∀ key ∈ (s.after p acts).keys, s.HeldSince p acts key (began key)) ∧
      (s.after p acts).keys.Pairwise fun key key' => began key < began key'

theorem InOrderOfHolds.of_sublist {p : HoldPolicy τ} {s : KeySource τ}
    {acts : List (KeyAct τ)} (h : s.InOrderOfHolds p acts) {a : KeyAct τ}
    (hsub : (s.after p (acts ++ [a])).keys.Sublist (s.after p acts).keys) :
    s.InOrderOfHolds p (acts ++ [a]) := by
  obtain ⟨began, hsince, horder⟩ := h
  exact ⟨began, fun key hkey => (hsince key (hsub.subset hkey)).concat hkey,
    horder.sublist hsub⟩

theorem InOrderOfHolds.typed {p : HoldPolicy τ} {s : KeySource τ}
    {acts : List (KeyAct τ)} (h : s.InOrderOfHolds p acts) (char : String)
    (now : τ) :
    s.InOrderOfHolds p (acts ++ [.typed char now]) := by
  obtain ⟨began, hsince, horder⟩ := h
  have hkeys : (s.after p (acts ++ [.typed char now])).keys =
      (s.after p acts).keys ++ (s.after p acts).pressedBy char := by
    rw [after_concat]
    exact keys_feed p _ char now
  have hnew {key : Int} (hkey : key ∈ (s.after p acts).pressedBy char) :
      key ∉ (s.after p acts).keys := by
    rw [← isHeld_iff, (mem_pressedBy hkey).1]
    exact Bool.false_ne_true
  -- what is pressed now is held since this act, all else since it was
  obtain ⟨began', hold, hlast⟩ : ∃ began' : Int → Nat,
      (∀ key ∈ (s.after p acts).keys, began' key = began key) ∧
        ∀ key ∉ (s.after p acts).keys, began' key = acts.length :=
    ⟨fun key => if key ∈ (s.after p acts).keys then began key else acts.length,
      fun _ hkey => if_pos hkey, fun _ hkey => if_neg hkey⟩
  refine ⟨began', ?_, ?_⟩
  · intro key hkey
    by_cases hmem : key ∈ (s.after p acts).keys
    · rw [hold key hmem]
      exact (hsince key hmem).concat hkey
    · rw [hlast key hmem]
      rw [hkeys] at hkey
      exact heldSince_of_pressedBy
        ((List.mem_append.mp hkey).resolve_left hmem)
  · rw [hkeys]
    refine List.pairwise_append.mpr ⟨?_, ?_, ?_⟩
    · refine horder.imp_of_mem fun hkey hkey' hlt => ?_
      rwa [hold _ hkey, hold _ hkey']
    · unfold pressedBy
      split
      · exact .nil
      · cases (s.after p acts).keyOf? char with
        | none => exact .nil
        | some key => exact (List.pairwise_singleton _ key).filter _
    · intro key hkey key' hkey'
      rw [hold key hkey, hlast key' (hnew hkey')]
      exact (hsince key hkey).lt_length

theorem inOrderOfHolds (p : HoldPolicy τ) {s : KeySource τ} (h : s.held = [])
    (acts : List (KeyAct τ)) : s.InOrderOfHolds p acts := by
  induction acts using List.reverseRecOn with
  | nil =>
      have hnone : (s.after p []).keys = [] := by simp [keys, h]
      refine ⟨fun _ => 0, ?_, ?_⟩
      · rw [hnone]
        exact List.forall_mem_nil _
      · rw [hnone]
        exact .nil
  | append_singleton acts a ih =>
      cases a with
      | typed char now => exact ih.typed char now
      | expire now =>
          refine ih.of_sublist ?_
          rw [after_concat]
          exact keys_expire_sublist p _ now
      | poll =>
          refine ih.of_sublist ?_
          rw [after_concat]
          exact List.Sublist.refl _

end KeySource

end Chip8
