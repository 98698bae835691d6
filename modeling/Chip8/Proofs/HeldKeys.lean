import Chip8.KeySource.Reader
import Chip8.Proofs.KeyChannel
import Mathlib.Data.List.Nodup

/-!
# Held keys and pressed keys

A key source remembers which keys it holds, and the keypad which keys are
pressed. Each keeps its own copy, and the queue of the keypad is all that
connects them. `KeyAct` lists what can happen to the two, in any order and with
any times: a character is typed, keys are released, the keypad is polled.

Every act but a poll turns some keys over (`KeySource.Turns`): it enqueues one
event for each of them and changes in the held table those and no others. So
the events about a key alternate, a press first (`alternating`), and a key is
held exactly if their number is odd. Since the keypad goes by the last event
about a key, both copies say the same as soon as the queue is applied.
-/

namespace Chip8

/-! ## The held table -/

namespace KeySource

variable {τ : Type}

def keys (s : KeySource τ) : List Int :=
  s.held.map (·.key)

theorem isHeld_iff (s : KeySource τ) (key : Int) :
    s.isHeld key = true ↔ key ∈ s.keys := by
  simp [isHeld, keys]

/-- A held table has each key once, and all keys in question are among the
sixteen. -/
structure Tidy (s : KeySource τ) : Prop where
  nodup : s.keys.Nodup
  range : ∀ key ∈ s.keys, 0 ≤ key ∧ key < 16
  mapped : ∀ e ∈ s.keyMap, 0 ≤ e.2 ∧ e.2 < 16

theorem tidy_ofMap {map : KeyMap} (h : ∀ e ∈ map, 0 ≤ e.2 ∧ e.2 < 16) :
    (ofMap map : KeySource τ).Tidy := by
  refine ⟨List.nodup_nil, by simp [keys, ofMap], ?_⟩
  unfold ofMap
  dsimp only
  split
  · decide
  · exact h

theorem mem_keyMap_of_keyOf? {s : KeySource τ} {char : String} {key : Int}
    (h : s.keyOf? char = some key) : (Text.lower char, key) ∈ s.keyMap := by
  obtain ⟨before, rest, hmap, -⟩ := List.lookup_eq_some_iff.mp h
  rw [hmap]
  simp

/-- A held key keeps its place, and another one comes last. -/
theorem keys_hold (s : KeySource τ) (key : Int) (deadline : τ) :
    (s.hold key deadline).keys = if s.isHeld key then s.keys
      else s.keys ++ [key] := by
  unfold hold keys
  split
  · rw [List.map_map]
    apply List.map_congr_left
    intro h _
    dsimp only [Function.comp_apply]
    split
    next heq => exact heq.symm
    next => rfl
  · rw [List.map_append]
    rfl

@[simp] theorem keyMap_hold (s : KeySource τ) (key : Int) (deadline : τ) :
    (s.hold key deadline).keyMap = s.keyMap := by
  unfold hold
  split <;> rfl

@[simp] theorem quit_hold (s : KeySource τ) (key : Int) (deadline : τ) :
    (s.hold key deadline).quit = s.quit := by
  unfold hold
  split <;> rfl

def dueKeys (p : HoldPolicy τ) (s : KeySource τ) (now : τ) : List Int :=
  (s.held.filter fun h => p.due now h.deadline).map (·.key)

theorem expire_snd (p : HoldPolicy τ) (s : KeySource τ) (now : τ) :
    (s.expire p now).2 = (s.dueKeys p now).map fun key => ⟨key, false⟩ := by
  rw [expire, dueKeys, List.map_map]
  rfl

theorem dueKeys_sublist (p : HoldPolicy τ) (s : KeySource τ) (now : τ) :
    (s.dueKeys p now).Sublist s.keys :=
  List.filter_sublist.map _

theorem keys_expire_sublist (p : HoldPolicy τ) (s : KeySource τ) (now : τ) :
    (s.expire p now).1.keys.Sublist s.keys :=
  List.filter_sublist.map _

/-- With each key in the table once, a key is held on unless its time has
come. -/
theorem mem_keys_expire (p : HoldPolicy τ) {s : KeySource τ} (h : s.keys.Nodup)
    (now : τ) (key : Int) :
    key ∈ (s.expire p now).1.keys ↔ key ∈ s.keys ∧ key ∉ s.dueKeys p now := by
  simp only [expire, keys, dueKeys, List.mem_map, List.mem_filter,
    Bool.not_eq_true', not_exists, not_and]
  constructor
  · rintro ⟨held, ⟨hmem, hdue⟩, rfl⟩
    refine ⟨⟨held, hmem, rfl⟩, ?_⟩
    rintro other ⟨hother, hdue'⟩ hkey
    -- two entries with one key are one entry
    obtain rfl := List.inj_on_of_nodup_map h hother hmem hkey
    rw [hdue] at hdue'
    cases hdue'
  · rintro ⟨⟨held, hmem, rfl⟩, hnot⟩
    refine ⟨held, ⟨hmem, ?_⟩, rfl⟩
    cases hdue : p.due now held.deadline with
    | false => rfl
    | true => exact absurd rfl (hnot held ⟨hmem, hdue⟩)

/-- Some keys are turned over: all of them were up and go down, or the other
way round, and the other keys stay as they are. -/
structure Turns (s s' : KeySource τ) (keys : List Int) (down : Bool) :
    Prop where
  nodup : keys.Nodup
  before : ∀ key ∈ keys, s.isHeld key = !down
  after : ∀ key, s'.isHeld key = if key ∈ keys then down else s.isHeld key

/-- The keys that a typed character presses: the one that it stands for, unless
it asks to quit, stands for no key, or the key is held. -/
def pressedBy (s : KeySource τ) (char : String) : List Int :=
  if char ∈ quitKeys then []
  else (s.keyOf? char).toList.filter fun key => !s.isHeld key

theorem feed_cases (p : HoldPolicy τ) (s : KeySource τ) (char : String)
    (now : τ) :
    (char ∈ quitKeys ∧ s.pressedBy char = [] ∧
      s.feed p char now = ({ s with quit := true }, [])) ∨
    (char ∉ quitKeys ∧ s.keyOf? char = none ∧ s.pressedBy char = [] ∧
      s.feed p char now = (s, [])) ∨
    ∃ key, char ∉ quitKeys ∧ s.keyOf? char = some key ∧
      s.pressedBy char = (if s.isHeld key then [] else [key]) ∧
      s.feed p char now = (s.hold key (p.deadline now),
        if s.isHeld key then [] else [⟨key, true⟩]) := by
  unfold feed pressedBy
  simp only [List.contains_iff_mem]
  by_cases hquit : char ∈ quitKeys
  · simp [hquit]
  · cases hkey : s.keyOf? char with
    | none => simp [hquit]
    | some key =>
        refine .inr (.inr ⟨key, hquit, rfl, ?_, if_neg hquit⟩)
        rw [if_neg hquit]
        cases hheld : s.isHeld key <;> simp [hheld]

theorem feed_snd (p : HoldPolicy τ) (s : KeySource τ) (char : String)
    (now : τ) :
    (s.feed p char now).2 = (s.pressedBy char).map fun key => ⟨key, true⟩ := by
  rcases s.feed_cases p char now with ⟨-, hnew, hfeed⟩ | ⟨-, -, hnew, hfeed⟩ |
    ⟨key, -, -, hnew, hfeed⟩
  · rw [hfeed, hnew, List.map_nil]
  · rw [hfeed, hnew, List.map_nil]
  · rw [hfeed, hnew]
    split <;> rfl

theorem keys_feed (p : HoldPolicy τ) (s : KeySource τ) (char : String)
    (now : τ) :
    (s.feed p char now).1.keys = s.keys ++ s.pressedBy char := by
  rcases s.feed_cases p char now with ⟨-, hnew, hfeed⟩ | ⟨-, -, hnew, hfeed⟩ |
    ⟨key, -, -, hnew, hfeed⟩
  · rw [hfeed, hnew, List.append_nil]
    rfl
  · rw [hfeed, hnew, List.append_nil]
  · rw [hfeed, hnew, keys_hold]
    split
    · exact (List.append_nil _).symm
    · rfl

theorem keyMap_feed (p : HoldPolicy τ) (s : KeySource τ) (char : String)
    (now : τ) :
    (s.feed p char now).1.keyMap = s.keyMap := by
  rcases s.feed_cases p char now
    with ⟨-, -, hfeed⟩ | ⟨-, -, -, hfeed⟩ | ⟨key, -, -, -, hfeed⟩
  · rw [hfeed]
  · rw [hfeed]
  · rw [hfeed, keyMap_hold]

theorem quit_feed (p : HoldPolicy τ) (s : KeySource τ) (char : String)
    (now : τ) :
    (s.feed p char now).1.quit = true ↔ s.quit = true ∨ char ∈ quitKeys := by
  rcases s.feed_cases p char now
    with ⟨hquit, -, hfeed⟩ | ⟨hquit, -, -, hfeed⟩ |
    ⟨key, hquit, -, -, hfeed⟩
  · simp [hfeed, hquit]
  · simp [hfeed, hquit]
  · simp [hfeed, hquit]

theorem mem_pressedBy {s : KeySource τ} {char : String} {key : Int}
    (h : key ∈ s.pressedBy char) :
    s.isHeld key = false ∧ s.keyOf? char = some key := by
  unfold pressedBy at h
  split at h
  · simp at h
  · simpa [and_comm] using h

theorem nodup_pressedBy (s : KeySource τ) (char : String) :
    (s.pressedBy char).Nodup := by
  unfold pressedBy
  split
  · exact List.nodup_nil
  · refine List.Nodup.filter _ ?_
    cases s.keyOf? char with
    | none => exact List.nodup_nil
    | some key => exact List.nodup_singleton key

theorem turns_feed (p : HoldPolicy τ) (s : KeySource τ) (char : String)
    (now : τ) :
    s.Turns (s.feed p char now).1 (s.pressedBy char) true := by
  refine ⟨s.nodup_pressedBy char, fun key hkey => (mem_pressedBy hkey).1, ?_⟩
  intro key
  rw [Bool.eq_iff_iff, isHeld_iff, keys_feed, List.mem_append]
  split
  next hmem => simp [hmem]
  next hmem => simp [hmem, isHeld_iff]

theorem turns_expire (p : HoldPolicy τ) {s : KeySource τ} (h : s.keys.Nodup)
    (now : τ) :
    s.Turns (s.expire p now).1 (s.dueKeys p now) false := by
  have hsub := s.dueKeys_sublist p now
  refine ⟨h.sublist hsub, fun key hkey =>
    (s.isHeld_iff key).mpr (hsub.subset hkey), ?_⟩
  intro key
  rw [Bool.eq_iff_iff, isHeld_iff, mem_keys_expire p h]
  split
  next hmem => simp [hmem]
  next hmem => simp [hmem, isHeld_iff]

theorem nodup_keys_feed (p : HoldPolicy τ) {s : KeySource τ} (h : s.keys.Nodup)
    (char : String) (now : τ) : (s.feed p char now).1.keys.Nodup := by
  rw [keys_feed]
  refine h.append (s.nodup_pressedBy char) ?_
  intro key hkey hpressed
  have hheld := (s.isHeld_iff key).mpr hkey
  rw [(mem_pressedBy hpressed).1] at hheld
  cases hheld

theorem Tidy.feed {s : KeySource τ} (h : s.Tidy) (p : HoldPolicy τ)
    (char : String) (now : τ) :
    (s.feed p char now).1.Tidy := by
  refine ⟨nodup_keys_feed p h.nodup char now, ?_,
    by rw [keyMap_feed]; exact h.mapped⟩
  intro key hkey
  rw [keys_feed] at hkey
  rcases List.mem_append.mp hkey with hkey | hkey
  · exact h.range key hkey
  · exact h.mapped _ (mem_keyMap_of_keyOf? (mem_pressedBy hkey).2)

theorem Tidy.expire {s : KeySource τ} (h : s.Tidy) (p : HoldPolicy τ)
    (now : τ) :
    (s.expire p now).1.Tidy :=
  ⟨h.nodup.sublist (s.keys_expire_sublist p now),
    fun key hkey => h.range key ((s.keys_expire_sublist p now).subset hkey),
    h.mapped⟩

end KeySource

/-! ## Alternating events -/

def alternating (n : Nat) : List Bool :=
  (List.range n).map fun i => i % 2 == 0

theorem alternating_succ (n : Nat) :
    alternating (n + 1) = alternating n ++ [n % 2 == 0] := by
  rw [alternating, List.range_succ, List.map_append]
  rfl

/-- What some events say about a key, in order: whether it goes down. -/
def downs (events : List KeyEvent) (key : Key) : List Bool :=
  (events.filter (·.key = key)).map (·.down)

theorem downs_append (events events' : List KeyEvent) (key : Key) :
    downs (events ++ events') key = downs events key ++ downs events' key := by
  rw [downs, List.filter_append, List.map_append]
  rfl

theorem lastIsPress_eq_getLast? (events : List KeyEvent) (key : Key) :
    Snapshot.lastIsPress events key = (downs events key).getLast?.any id := by
  rw [Snapshot.lastIsPress, downs, List.getLast?_map, Option.any_map]
  rfl

/-- After alternating events a key is down exactly if their number is odd. -/
theorem lastIsPress_of_alternating {events : List KeyEvent} {key : Key}
    {n : Nat} (h : downs events key = alternating n) :
    Snapshot.lastIsPress events key = (n % 2 == 1) := by
  rw [lastIsPress_eq_getLast?, h]
  cases n with
  | zero => rfl
  | succ n =>
      rw [alternating_succ, List.getLast?_concat, Option.any_some, id_eq,
        Bool.eq_iff_iff, beq_iff_eq, beq_iff_eq]
      omega

theorem downs_map {keys : List Int} (hnodup : keys.Nodup)
    (hrange : ∀ key ∈ keys, 0 ≤ key ∧ key < 16) (down : Bool) (key : Key) :
    downs (keys.map fun z => ⟨Key.ofInt z, down⟩) key =
      if (key.val : Int) ∈ keys then [down] else [] := by
  have hfilter : keys.filter (fun z => Key.ofInt z = key) =
      keys.filter (fun z => z = (key.val : Int)) := by
    apply List.filter_congr
    intro z hz
    have := hrange z hz
    have := key.isLt
    rw [decide_eq_decide, Fin.ext_iff, Key.ofInt]
    dsimp only
    omega
  have hcount := List.Nodup.count (a := (key.val : Int)) hnodup
  rw [downs, List.filter_map, List.map_map]
  change (keys.filter (fun z => Key.ofInt z = key)).map (fun _ => down) = _
  rw [hfilter, List.filter_eq, hcount]
  split <;> rfl

/-- The events about each key alternate, and a key is held exactly if their
number is odd. -/
def Alternates {τ : Type} (events : List KeyEvent) (s : KeySource τ) : Prop :=
  ∀ key : Key, ∃ n, downs events key = alternating n ∧
    s.isHeld key.val = (n % 2 == 1)

theorem Alternates.turns {τ : Type} {events : List KeyEvent}
    {s s' : KeySource τ} {keys : List Int} {down : Bool}
    (h : Alternates events s) (hturns : s.Turns s' keys down)
    (hrange : ∀ key ∈ keys, 0 ≤ key ∧ key < 16) :
    Alternates (events ++ keys.map fun z => ⟨Key.ofInt z, down⟩) s' := by
  intro key
  obtain ⟨n, hdowns, hheld⟩ := h key
  rw [downs_append, downs_map hturns.nodup hrange, hturns.after]
  by_cases hmem : (key.val : Int) ∈ keys
  · have hodd : (n % 2 == 1) = !down := hheld.symm.trans (hturns.before _ hmem)
    have hparity : (n % 2 == 0) = down ∧ ((n + 1) % 2 == 1) = down := by
      cases down <;> simp at hodd ⊢ <;> omega
    refine ⟨n + 1, ?_, ?_⟩
    · rw [if_pos hmem, alternating_succ, hdowns, hparity.1]
    · rw [if_pos hmem, hparity.2]
  · refine ⟨n, ?_, ?_⟩
    · rw [if_neg hmem, List.append_nil, hdowns]
    · rw [if_neg hmem, hheld]

/-! ## Key source and keypad -/

inductive KeyAct (τ : Type) where
  | typed (char : String) (now : τ)
  | expire (now : τ)
  | poll

namespace Reader

variable {τ : Type}

def fresh (map : KeyMap) (now : τ) : Reader τ :=
  { source := KeySource.ofMap map, now }

def act (p : HoldPolicy τ) (r : Reader τ) : KeyAct τ → Reader τ
  | .typed char now => { r with now }.feed p char
  | .expire now => { r with now }.expire p
  | .poll => r.poll

def after (p : HoldPolicy τ) (r : Reader τ) (acts : List (KeyAct τ)) :
    Reader τ :=
  acts.foldl (act p) r

/-- The events that are in the queue of a keypad and were not there before. -/
def newEvents (r r' : Reader τ) : List KeyEvent :=
  r'.keypad.queue.drop r.keypad.queue.length

def enqueued (p : HoldPolicy τ) (r : Reader τ) :
    List (KeyAct τ) → List KeyEvent
  | [] => []
  | a :: rest => r.newEvents (r.act p a) ++ enqueued p (r.act p a) rest

@[simp] theorem after_nil (p : HoldPolicy τ) (r : Reader τ) :
    r.after p [] = r := rfl

theorem after_concat (p : HoldPolicy τ) (r : Reader τ) (acts : List (KeyAct τ))
    (a : KeyAct τ) : r.after p (acts ++ [a]) = (r.after p acts).act p a := by
  rw [after, List.foldl_append]
  rfl

@[simp] theorem enqueued_nil (p : HoldPolicy τ) (r : Reader τ) :
    r.enqueued p [] = [] := rfl

theorem enqueued_concat (p : HoldPolicy τ) (r : Reader τ)
    (acts : List (KeyAct τ)) (a : KeyAct τ) :
    r.enqueued p (acts ++ [a]) =
      r.enqueued p acts ++
        (r.after p acts).newEvents ((r.after p acts).act p a) := by
  induction acts generalizing r with
  | nil => simp [enqueued]
  | cons b rest ih =>
      rw [List.cons_append, enqueued, ih, ← List.append_assoc]
      rfl

/-- Key source and keypad agree about the events that were enqueued: these
alternate for each key as the held table says, and the keypad has them applied
or queued. -/
structure Coupled (events : List KeyEvent) (r : Reader τ) : Prop where
  tidy : r.source.Tidy
  alternates : Alternates events r.source
  applied : r.keypad.poll.snapshot = Snapshot.after events

theorem coupled_fresh {map : KeyMap} (h : ∀ e ∈ map, 0 ≤ e.2 ∧ e.2 < 16)
    (now : τ) :
    Coupled [] (fresh map now) :=
  ⟨KeySource.tidy_ofMap h, fun _ => ⟨0, rfl, rfl⟩, rfl⟩

/-- What the key source turns over, the keypad gets to know. -/
theorem Coupled.turns {events : List KeyEvent} {r r' : Reader τ}
    {keys : List Int} {down : Bool} (h : Coupled events r)
    (htidy : r'.source.Tidy) (hturns : r.source.Turns r'.source keys down)
    (hrange : ∀ key ∈ keys, 0 ≤ key ∧ key < 16)
    (hkeypad : r'.keypad =
      r.keypad.enqueue (keys.map fun z => ⟨Key.ofInt z, down⟩)) :
    Coupled (events ++ r.newEvents r') r' := by
  have hnew : r.newEvents r' = keys.map fun z => ⟨Key.ofInt z, down⟩ := by
    rw [newEvents, hkeypad, Keypad.enqueue, List.drop_left]
  rw [hnew]
  refine ⟨htidy, h.alternates.turns hturns hrange, ?_⟩
  rw [hkeypad, ← Keypad.poll_enqueue_poll, Snapshot.after_append, ← h.applied]
  rfl

theorem pass_map (k : Keypad) (keys : List Int) (down : Bool) :
    pass k (keys.map fun z => ⟨z, down⟩) =
      k.enqueue (keys.map fun z => ⟨Key.ofInt z, down⟩) := by
  rw [pass, List.map_map]
  rfl

theorem Coupled.act {events : List KeyEvent} {r : Reader τ}
    (h : Coupled events r) (p : HoldPolicy τ) (a : KeyAct τ) :
    Coupled (events ++ r.newEvents (r.act p a)) (r.act p a) := by
  cases a with
  | typed char now =>
      refine h.turns (h.tidy.feed p char now)
        (r.source.turns_feed p char now) ?_ ?_
      · intro key hkey
        exact h.tidy.mapped _
          (KeySource.mem_keyMap_of_keyOf? (KeySource.mem_pressedBy hkey).2)
      · rw [← pass_map, ← KeySource.feed_snd p r.source char now]
        rfl
  | expire now =>
      refine h.turns (h.tidy.expire p now)
        (KeySource.turns_expire p h.tidy.nodup now) ?_ ?_
      · exact fun key hkey =>
          h.tidy.range key ((r.source.dueKeys_sublist p now).subset hkey)
      · rw [← pass_map, ← KeySource.expire_snd p r.source now]
        rfl
  | poll =>
      have hnone : r.newEvents (r.act p .poll) = [] := List.drop_nil
      rw [hnone, List.append_nil]
      exact ⟨h.tidy, h.alternates, h.applied⟩

theorem Coupled.after {r : Reader τ} (h : Coupled [] r) (p : HoldPolicy τ)
    (acts : List (KeyAct τ)) :
    Coupled (r.enqueued p acts) (r.after p acts) := by
  induction acts using List.reverseRecOn with
  | nil => exact h
  | append_singleton acts a ih =>
      rw [enqueued_concat, after_concat]
      exact ih.act p a

theorem quit_after (p : HoldPolicy τ) (r : Reader τ) (acts : List (KeyAct τ)) :
    (r.after p acts).source.quit = true ↔
      r.source.quit = true ∨ ∃ char now,
        KeyAct.typed char now ∈ acts ∧ char ∈ quitKeys := by
  induction acts using List.reverseRecOn with
  | nil => simp
  | append_singleton acts a ih =>
      rw [after_concat]
      cases a with
      | typed char now =>
          have hquit := KeySource.quit_feed p (r.after p acts).source char now
          change (KeySource.feed p _ char now).1.quit = true ↔ _
          rw [hquit, ih]
          grind
      | expire now | poll =>
          change (r.after p acts).source.quit = true ↔ _
          rw [ih]
          grind

theorem keypad_typed (p : HoldPolicy τ) (r : Reader τ) {char : String}
    (h : char ∈ quitKeys ∨ r.source.keyOf? char = none) (now : τ) :
    (r.act p (.typed char now)).keypad = r.keypad := by
  have hnone : r.source.pressedBy char = [] := by
    unfold KeySource.pressedBy
    rcases h with hquit | hkey
    · rw [if_pos hquit]
    · simp [hkey]
  have hfeed := KeySource.feed_snd p r.source char now
  rw [hnone] at hfeed
  change pass r.keypad (KeySource.feed p r.source char now).2 = r.keypad
  rw [hfeed, List.map_nil, pass, List.map_nil, Keypad.enqueue, List.append_nil]

/-- Whatever happened, a key is pressed once the queue is applied exactly if
the key source holds it, and the source holds no other keys. The keypad shows
the events that were enqueued, which alternate for each key, a press first.
What asks to quit or stands for no key enqueues nothing, and a reader is asked
to quit exactly if such a character was typed. -/
theorem pressed_iff_held {map : KeyMap} (hmap : ∀ e ∈ map, 0 ≤ e.2 ∧ e.2 < 16)
    (p : HoldPolicy τ) (start : τ) (acts : List (KeyAct τ)) :
    let r := (fresh map start).after p acts
    let events := (fresh map start).enqueued p acts
    ((∀ key : Key,
      r.keypad.poll.snapshot.isHeld key = r.source.isHeld key.val) ∧
        ∀ key ∈ r.source.keys, 0 ≤ key ∧ key < 16) ∧
      r.keypad.poll.snapshot.Shows events ∧
      (∀ key : Key, ∃ n, downs events key = alternating n) ∧
      (∀ char now, char ∈ quitKeys ∨ r.source.keyOf? char = none →
        (r.act p (.typed char now)).keypad = r.keypad) ∧
      (r.source.quit = true ↔ ∃ char now,
        KeyAct.typed char now ∈ acts ∧ char ∈ quitKeys) := by
  intro r events
  have hcoupled : Coupled events r := (coupled_fresh hmap start).after p acts
  refine ⟨⟨?_, hcoupled.tidy.range⟩, ?_, ?_, ?_, ?_⟩
  · intro key
    obtain ⟨n, hdowns, hheld⟩ := hcoupled.alternates key
    rw [hcoupled.applied, Snapshot.isHeld_after,
      lastIsPress_of_alternating hdowns, hheld]
  · rw [hcoupled.applied]
    exact Snapshot.shows_after events
  · intro key
    obtain ⟨n, hdowns, -⟩ := hcoupled.alternates key
    exact ⟨n, hdowns⟩
  · intro char now hnone
    exact r.keypad_typed p hnone now
  · refine (quit_after p (fresh map start) acts).trans ?_
    simp [fresh, KeySource.ofMap]

/-- Two characters with one key, a time that goes back, and two keys released
at once. -/
theorem shared_key_released_once :
    let map : KeyMap := [("a", 5), ("b", 5), ("c", 3)]
    let p : HoldPolicy Int := ⟨(· + 150), fun now deadline => deadline ≤ now⟩
    let acts : List (KeyAct Int) :=
      [.typed "a" 100, .typed "B" 0, .poll, .expire 149, .typed "c" (-10),
        .typed "x" 0, .expire 150, .typed "a" 160, .poll]
    let r := (fresh map 0).after p acts
    (fresh map 0).enqueued p acts =
      [⟨5, true⟩, ⟨3, true⟩, ⟨5, false⟩, ⟨3, false⟩, ⟨5, true⟩] ∧
      r.source.keys = [5] ∧ r.keypad.poll.snapshot.isHeld 5 = true ∧
      r.keypad.poll.snapshot.isHeld 3 = false := by
  intro map p acts r
  have hmap : ∀ e ∈ map, 0 ≤ e.2 ∧ e.2 < 16 := by decide
  have hheld := (pressed_iff_held hmap p 0 acts).1.1
  have hrun : (fresh map 0).enqueued p acts =
        [⟨5, true⟩, ⟨3, true⟩, ⟨5, false⟩, ⟨3, false⟩, ⟨5, true⟩] ∧
      r.source.keys = [5] ∧ r.source.isHeld 5 = true ∧
        r.source.isHeld 3 = false := by
    decide +kernel
  obtain ⟨hevents, hkeys, h₅, h₃⟩ := hrun
  exact ⟨hevents, hkeys, (hheld 5).trans h₅, (hheld 3).trans h₃⟩

end Reader

end Chip8
