import Chip8.Proofs.HeldTable
import Mathlib.Data.Int.Order.Basic
import Mathlib.Order.Lattice
import Mathlib.Order.Monotone.Defs

/-!
# How long keys are held

If times do not go back and later keystrokes have no earlier deadlines
(`HoldPolicy.Timely`), the held table right after a release is told by the
keystrokes alone (`KeySource.HeldExactly`): a key is held exactly if some
keystroke for it has its deadline still ahead.

A turn of the reader's loop (`Turn`) ends with a release whether or not a
character was typed in it, so this is true at the end of every turn, of any
list of turns and of `Reader.session` in particular.
-/

namespace Chip8

/-- Later keystrokes have no earlier deadlines, and a deadline is due from its
time on. -/
structure HoldPolicy.Timely {τ : Type} [LinearOrder τ] (p : HoldPolicy τ) :
    Prop where
  monotone : Monotone p.deadline
  due_iff (now deadline : τ) : p.due now deadline = true ↔ deadline ≤ now

theorem HoldPolicy.Timely.due_eq_false_iff {τ : Type} [LinearOrder τ]
    {p : HoldPolicy τ} (h : p.Timely) (now deadline : τ) :
    p.due now deadline = false ↔ now < deadline := by
  rw [← Bool.not_eq_true, h.due_iff, not_le]

namespace KeyAct

variable {τ : Type}

theorem time?_of_stroke? {map : KeyMap} {key : Int} {a : KeyAct τ} {now : τ}
    (h : a.stroke? map key = some now) : a.time? = some now := by
  cases a with
  | typed char typedAt =>
      rw [stroke?] at h
      split at h
      · exact h
      · cases h
  | expire _ | poll => cases h

theorem strokes_sublist_times (map : KeyMap) (key : Int)
    (acts : List (KeyAct τ)) :
    (strokes map key acts).Sublist (times acts) := by
  induction acts with
  | nil => exact .slnil
  | cons a rest ih =>
      unfold strokes times
      cases h : a.stroke? map key with
      | none =>
          rw [List.filterMap_cons_none h]
          exact ih.trans ((List.sublist_cons_self a rest).filterMap _)
      | some now =>
          rw [List.filterMap_cons_some h,
            List.filterMap_cons_some (time?_of_stroke? h)]
          exact ih.cons_cons now

def InOrder [LE τ] (acts : List (KeyAct τ)) : Prop :=
  (times acts).Pairwise (· ≤ ·)

instance [LE τ] [DecidableLE τ] (acts : List (KeyAct τ)) :
    Decidable (InOrder acts) :=
  inferInstanceAs (Decidable ((times acts).Pairwise (· ≤ ·)))

theorem InOrder.le_getLast? [LinearOrder τ] {acts : List (KeyAct τ)}
    (h : InOrder acts) {map : KeyMap} {key : Int} {struck last : τ}
    (hstruck : struck ∈ strokes map key acts)
    (hlast : (strokes map key acts).getLast? = some last) : struck ≤ last := by
  have hsorted := h.sublist (strokes_sublist_times map key acts)
  obtain ⟨before, hbefore⟩ := List.getLast?_eq_some_iff.mp hlast
  rw [hbefore] at hsorted hstruck
  rcases List.mem_append.mp hstruck with hmem | hmem
  · exact (List.pairwise_append.mp hsorted).2.2 _ hmem _
      (List.mem_singleton_self last)
  · exact (List.mem_singleton.mp hmem).le

end KeyAct

namespace KeySource

open KeyAct

variable {τ : Type} [LinearOrder τ]

/-- The held table right after the release that is the last of some acts, as
the keystrokes tell it. -/
structure HeldExactly (p : HoldPolicy τ) (s : KeySource τ)
    (acts : List (KeyAct τ)) (now : τ) :
    Prop where
  mem_keys_iff (key : Int) : key ∈ (s.after p acts).keys ↔
    ∃ struck ∈ strokes s.keyMap key acts, now < p.deadline struck
  nodup : (s.after p acts).keys.Nodup
  deadline : ∀ h ∈ (s.after p acts).held,
    ∃ struck, (strokes s.keyMap h.key acts).getLast? = some struck ∧
      h.deadline = p.deadline struck
  order : s.InOrderOfHolds p acts

theorem heldExactly_expire {p : HoldPolicy τ} (hp : p.Timely) {s : KeySource τ}
    (h : s.held = []) {acts : List (KeyAct τ)} {now : τ}
    (horder : InOrder (acts ++ [.expire now])) :
    s.HeldExactly p (acts ++ [.expire now]) now := by
  have hremembers := (Remembers.start p h).after (acts ++ [.expire now])
  have hmap := keyMap_after p s (acts ++ [.expire now])
  have htimes : ∀ time ∈ times (acts ++ [.expire now]), time ≤ now := by
    intro time htime
    rw [InOrder, times_append] at horder
    rw [times_append] at htime
    rcases List.mem_append.mp htime with hmem | hmem
    · exact (List.pairwise_append.mp horder).2.2 _ hmem _
        (List.mem_singleton_self now)
    · exact (List.mem_singleton.mp hmem).le
  constructor
  case mem_keys_iff =>
    intro key
    constructor
    · intro hkey
      obtain ⟨e, he, rfl⟩ := List.mem_map.mp hkey
      obtain ⟨struck, hstruck, hdeadline⟩ := hremembers.deadline e he
      rw [after_concat] at he
      have hdue := (mem_held_expire.mp he).2
      rw [hdeadline, hp.due_eq_false_iff] at hdue
      rw [hmap] at hstruck
      exact ⟨struck, List.mem_of_getLast? hstruck, hdue⟩
    · rintro ⟨struck, hmem, hahead⟩
      obtain ⟨last, hlast⟩ : ∃ last,
          (strokes s.keyMap key _).getLast? = some last :=
        ⟨_, List.getLast?_eq_some_getLast (List.ne_nil_of_mem hmem)⟩
      have hle := horder.le_getLast? hmem hlast
      rw [← hmap] at hlast
      refine hremembers.held key last hlast fun time htime => ?_
      rw [hp.due_eq_false_iff]
      exact (htimes time htime).trans_lt (hahead.trans_le (hp.monotone hle))
  case nodup => exact hremembers.nodup
  case deadline =>
    intro e he
    rw [← hmap]
    exact hremembers.deadline e he
  case order => exact inOrderOfHolds p h _

theorem HeldExactly.mem_keys_iff_getLast? {p : HoldPolicy τ} (hp : p.Timely)
    {s : KeySource τ} {acts : List (KeyAct τ)} {now : τ}
    (h : s.HeldExactly p acts now) (horder : InOrder acts) (key : Int) :
    key ∈ (s.after p acts).keys ↔
      ∃ last, (strokes s.keyMap key acts).getLast? = some last ∧
        now < p.deadline last := by
  rw [h.mem_keys_iff]
  constructor
  · rintro ⟨struck, hmem, hahead⟩
    have hlast := List.getLast?_eq_some_getLast (List.ne_nil_of_mem hmem)
    exact ⟨_, hlast,
      hahead.trans_le (hp.monotone (horder.le_getLast? hmem hlast))⟩
  · rintro ⟨last, hlast, hahead⟩
    exact ⟨last, List.mem_of_getLast? hlast, hahead⟩

end KeySource

/-! ## The reader's loop -/

/-- A turn of the loop: what was typed in it, if anything, and when, and the
time of the release at its end. -/
structure Turn (τ : Type) where
  typed? : Option (String × τ)
  released : τ

namespace Turn

variable {τ : Type}

def acts (turn : Turn τ) : List (KeyAct τ) :=
  (turn.typed?.map fun t => KeyAct.typed t.1 t.2).toList ++
    [.expire turn.released]

theorem flatMap_acts_concat (turns : List (Turn τ)) (turn : Turn τ) :
    (turns ++ [turn]).flatMap acts =
      (turns.flatMap acts ++
        (turn.typed?.map fun t => KeyAct.typed t.1 t.2).toList) ++
        [.expire turn.released] := by
  rw [List.flatMap_append, List.flatMap_singleton, acts, List.append_assoc]

end Turn

namespace Reader

open KeyAct

variable {τ : Type}

def byteTurns (now : τ) (bytes : List UInt8) : List (Turn τ) :=
  bytes.map fun b => ⟨some (latin1 b, now), now⟩

/-- The turns of a session that begins at a time with some bytes waiting. -/
def turns (now : τ) (pipe : List UInt8) : List (Arrival τ) → List (Turn τ)
  | [] => byteTurns now pipe ++ [⟨none, now⟩]
  | a :: rest =>
    byteTurns now pipe ++ ⟨none, a.now⟩ :: turns a.now a.bytes rest

theorem flatMap_acts_byteTurns (now : τ) (bytes : List UInt8) :
    (byteTurns now bytes).flatMap Turn.acts =
      bytes.flatMap fun b => [.typed (latin1 b) now, .expire now] := by
  rw [byteTurns, List.flatMap_map]
  rfl

theorem now_turn (p : HoldPolicy τ) (r : Reader τ) (b : UInt8) :
    (r.turn p b).now = r.now := by
  simp only [turn, expire, feed]

theorem source_turn (p : HoldPolicy τ) (r : Reader τ) (b : UInt8) :
    (r.turn p b).source =
      r.source.after p [.typed (latin1 b) r.now, .expire r.now] := by
  simp only [turn, expire, feed, KeySource.after, List.foldl_cons,
    List.foldl_nil, KeySource.act]

theorem foldl_turn (p : HoldPolicy τ) (r : Reader τ) (bytes : List UInt8) :
    (bytes.foldl (turn p) r).source =
        r.source.after p ((byteTurns r.now bytes).flatMap Turn.acts) ∧
      (bytes.foldl (turn p) r).now = r.now := by
  rw [flatMap_acts_byteTurns]
  induction bytes generalizing r with
  | nil => exact ⟨rfl, rfl⟩
  | cons b rest ih =>
      obtain ⟨hsource, hnow⟩ := ih (r.turn p b)
      rw [now_turn] at hsource hnow
      rw [source_turn, ← KeySource.after_append] at hsource
      rw [List.foldl_cons, List.flatMap_cons]
      exact ⟨hsource, hnow⟩

/-- A session is its turns, one after the other. -/
theorem source_session (p : HoldPolicy τ) (r : Reader τ)
    (arrivals : List (Arrival τ)) :
    (r.session p arrivals).2.source =
      r.source.after p ((turns r.now r.pipe arrivals).flatMap Turn.acts) := by
  induction arrivals generalizing r with
  | nil =>
      obtain ⟨hsource, hnow⟩ := foldl_turn p r r.pipe
      have hlast : (r.session p []).2.source =
          (((r.pipe.foldl (turn p) r).source).expire p
            (r.pipe.foldl (turn p) r).now).1 := rfl
      rw [hlast, hsource, hnow, turns, List.flatMap_append,
        KeySource.after_append]
      rfl
  | cons a rest ih =>
      have hsource := (foldl_turn p r r.pipe).1
      have hnext : (((r.drain p).poll.receive a).expire p).source =
          ((r.pipe.foldl (turn p) r).source.expire p a.now).1 := rfl
      have hsession : (r.session p (a :: rest)).2 =
          ((((r.drain p).poll.receive a).expire p).session p rest).2 := rfl
      rw [hsession, ih, hnext, hsource, turns, List.flatMap_append,
        KeySource.after_append]
      rfl

theorem exists_turns_eq_concat (p : HoldPolicy τ) (r : Reader τ)
    (arrivals : List (Arrival τ)) :
    ∃ before, turns r.now r.pipe arrivals =
      before ++ [⟨none, (r.session p arrivals).2.now⟩] := by
  induction arrivals generalizing r with
  | nil =>
      refine ⟨byteTurns r.now r.pipe, ?_⟩
      have hlast : (r.session p []).2.now = (r.pipe.foldl (turn p) r).now :=
        rfl
      rw [hlast, (foldl_turn p r r.pipe).2]
      rfl
  | cons a rest ih =>
      obtain ⟨before, hbefore⟩ := ih (((r.drain p).poll.receive a).expire p)
      refine ⟨byteTurns r.now r.pipe ++ ⟨none, a.now⟩ :: before, ?_⟩
      rw [List.append_assoc, List.cons_append]
      exact congrArg (byteTurns r.now r.pipe ++ ⟨none, a.now⟩ :: ·) hbefore

theorem times_byteTurns (now : τ) (bytes : List UInt8) :
    times ((byteTurns now bytes).flatMap Turn.acts) =
      List.replicate (2 * bytes.length) now := by
  rw [flatMap_acts_byteTurns]
  induction bytes with
  | nil => rfl
  | cons b rest ih =>
      have hlength : 2 * (b :: rest).length = 2 * rest.length + 1 + 1 := by
        rw [List.length_cons]
        omega
      rw [hlength, List.replicate_succ, List.replicate_succ, ← ih]
      rfl

variable [LinearOrder τ]

/-- If arrivals come in order, so do the acts of the turns, none of which is
before the start. -/
theorem inOrder_turns {now : τ} {arrivals : List (Arrival τ)}
    (h : (now :: arrivals.map (·.now)).Pairwise (· ≤ ·)) (pipe : List UInt8) :
    InOrder ((turns now pipe arrivals).flatMap Turn.acts) ∧
      ∀ time ∈ times ((turns now pipe arrivals).flatMap Turn.acts),
        now ≤ time := by
  induction arrivals generalizing now pipe with
  | nil =>
      have htimes : times ((turns now pipe []).flatMap Turn.acts) =
          List.replicate (2 * pipe.length + 1) now := by
        rw [turns, List.flatMap_append, times_append, times_byteTurns,
          List.replicate_succ']
        rfl
      rw [InOrder, htimes]
      exact ⟨List.pairwise_replicate.mpr (.inr le_rfl),
        fun time htime => (List.mem_replicate.mp htime).2.ge⟩
  | cons a rest ih =>
      obtain ⟨hstart, hrest⟩ := List.pairwise_cons.mp h
      obtain ⟨horder, hge⟩ := ih hrest a.bytes
      have hnow : now ≤ a.now := hstart a.now (List.mem_cons_self ..)
      -- all bytes are read now, all else happens at the arrival or later
      have htimes : times ((turns now pipe (a :: rest)).flatMap Turn.acts) =
          List.replicate (2 * pipe.length) now ++
            a.now :: times ((turns a.now a.bytes rest).flatMap Turn.acts) := by
        rw [turns, List.flatMap_append, times_append, times_byteTurns]
        rfl
      have hlater :
          ∀ time ∈ a.now ::
            times ((turns a.now a.bytes rest).flatMap Turn.acts),
          now ≤ time := by
        rintro time (_ | ⟨_, htime⟩)
        · exact hnow
        · exact hnow.trans (hge time htime)
      rw [InOrder, htimes]
      constructor
      · refine List.pairwise_append.mpr
          ⟨List.pairwise_replicate.mpr (.inr le_rfl),
            List.pairwise_cons.mpr ⟨hge, horder⟩, ?_⟩
        intro time htime time' htime'
        rw [(List.mem_replicate.mp htime).2]
        exact hlater time' htime'
      · intro time htime
        rcases List.mem_append.mp htime with hmem | hmem
        · exact (List.mem_replicate.mp hmem).2.ge
        · exact hlater time hmem

/-- With timely holds, the held table of a fresh key source is told by the
keystrokes alone right after each release, if times do not go back. At the end
of a turn of the reader's loop, whether a character was typed in it or not, a
key is therefore held exactly if its last keystroke has its deadline still
ahead. The turns of a session in which bytes arrive, however many and however
fast, are such turns. -/
theorem held_until_deadline {p : HoldPolicy τ} (hp : p.Timely) (map : KeyMap) :
    let s : KeySource τ := .ofMap map
    (∀ acts now, InOrder (acts ++ [.expire now]) →
      s.HeldExactly p (acts ++ [.expire now]) now) ∧
    (∀ turns turn, InOrder ((turns ++ [turn]).flatMap Turn.acts) → ∀ key,
      (key ∈ (s.after p ((turns ++ [turn]).flatMap Turn.acts)).keys ↔
        ∃ last,
        (strokes s.keyMap key ((turns ++ [turn]).flatMap Turn.acts)).getLast? =
        some last ∧ turn.released < p.deadline last)) ∧
    ∀ start arrivals, (start :: arrivals.map (·.now)).Pairwise (· ≤ ·) →
      let r := ((fresh map start).session p arrivals).2
      let acts := (turns start [] arrivals).flatMap Turn.acts
      InOrder acts ∧ r.source = s.after p acts ∧
          s.HeldExactly p acts r.now := by
  intro s
  have hrelease (acts : List (KeyAct τ)) (now : τ)
      (h : InOrder (acts ++ [.expire now])) :
        s.HeldExactly p (acts ++ [.expire now]) now :=
    KeySource.heldExactly_expire hp rfl h
  refine ⟨hrelease, ?_, ?_⟩
  · intro turns turn horder key
    rw [Turn.flatMap_acts_concat] at horder ⊢
    exact (hrelease _ _ horder).mem_keys_iff_getLast? hp horder key
  · intro start arrivals h r acts
    have horder : InOrder acts := (inOrder_turns h []).1
    refine ⟨horder, source_session p (fresh map start) arrivals, ?_⟩
    obtain ⟨before, hbefore⟩ :=
      exists_turns_eq_concat p (fresh map start) arrivals
    have hacts : acts = before.flatMap Turn.acts ++ [.expire r.now] :=
      (congrArg (List.flatMap Turn.acts) hbefore).trans List.flatMap_append
    rw [hacts] at horder ⊢
    exact hrelease _ _ horder

/-- A repeated keystroke extends a hold, a key is pressed again after its
release, and one that is due right at its deadline is released although bytes
keep coming. -/
theorem repeat_extends_hold :
    let map : KeyMap := [("a", 5), ("b", 3)]
    let p : HoldPolicy Int := ⟨(· + 150), fun now deadline => deadline ≤ now⟩
    let s : KeySource Int := .ofMap map
    let acts : List (KeyAct Int) :=
      [.typed "a" 0, .typed "b" 10, .typed "A" 100, .expire 160,
        .typed "b" 170]
    let turns : List (Turn Int) := [⟨some ("a", 0), 0⟩, ⟨some ("b", 100), 149⟩]
    let turn : Turn Int := ⟨some ("b", 150), 150⟩
    let arrivals : List (Arrival Int) :=
      [⟨0, [0x61], false⟩, ⟨100, [0x62, 0x62], false⟩, ⟨150, [], false⟩]
    p.Timely ∧ s.HeldExactly p (acts ++ [.expire 249]) 249 ∧
      (s.after p (acts ++ [.expire 249])).keys = [5, 3] ∧
      5 ∉ (s.after p ((turns ++ [turn]).flatMap Turn.acts)).keys ∧
      s.HeldExactly p ((Reader.turns 0 [] arrivals).flatMap Turn.acts)
        150 := by
  intro map p s acts turns turn arrivals
  have hp : p.Timely :=
    ⟨fun _ _ h => Int.add_le_add_right h 150, fun _ _ => decide_eq_true_iff⟩
  obtain ⟨hrelease, hturns, hsession⟩ := held_until_deadline hp map
  have hacts : InOrder (acts ++ [.expire 249]) := by decide +kernel
  have hsteady : InOrder ((turns ++ [turn]).flatMap Turn.acts) := by
    decide +kernel
  refine ⟨hp, hrelease acts 249 hacts, by decide +kernel, ?_, ?_⟩
  · have hlast :
        (strokes s.keyMap 5 ((turns ++ [turn]).flatMap Turn.acts)).getLast? =
        some 0 := by decide +kernel
    rw [hturns turns turn hsteady, hlast]
    rintro ⟨last, ⟨⟩, hahead⟩
    exact absurd hahead (by decide)
  · exact (hsession 0 arrivals (by decide)).2.2

end Reader

end Chip8
