import Chip8.Text.LowerCase

/-!
# Keys from a terminal

A terminal tells which character was typed, but not when a key is let go. The
key source therefore holds a key for a while after each keystroke: the first
one presses it, another one while it is held puts its release off, and when its
time has come it is released. Escape asks to quit instead.

Time is of any type; a `HoldPolicy` says until when a key is held that is typed
now, and when that time has come. `KeySource.feed` and `KeySource.expire` yield
the events that they cause beside the new state.
-/

namespace Chip8

structure HoldPolicy (τ : Type) where
  /-- Until when a key typed at a time is held. -/
  deadline : τ → τ
  /-- Whether it is time, now, for a deadline. -/
  due : (now deadline : τ) → Bool

def holdSeconds : Float := 0.15

def pollSeconds : Float := 0.005

def HoldPolicy.standard : HoldPolicy Float where
  deadline now := now + holdSeconds
  due now deadline := deadline ≤ now

/-- The characters that ask to quit: Escape. -/
def quitKeys : List String := [String.ofList [Char.ofNat 0x1B]]

abbrev KeyMap := List (String × Int)

def KeyMap.standard : KeyMap :=
  [("1", 0x1), ("2", 0x2), ("3", 0x3), ("4", 0xC), ("q", 0x4), ("w", 0x5),
    ("e", 0x6), ("r", 0xD), ("a", 0x7), ("s", 0x8), ("d", 0x9), ("f", 0xE),
    ("z", 0xA), ("x", 0x0), ("c", 0xB), ("v", 0xF)]

structure HostKeyEvent where
  key : Int
  down : Bool
  deriving DecidableEq, Repr

structure Held (τ : Type) where
  key : Int
  deadline : τ

structure KeySource (τ : Type) where
  keyMap : KeyMap
  /-- The held keys, in the order in which they were pressed. -/
  held : List (Held τ) := []
  quit : Bool := false

namespace KeySource

variable {τ : Type}

/-- A key source with a key map of its own; an empty one is replaced by the
standard one. -/
def ofMap (map : KeyMap) : KeySource τ :=
  { keyMap := if map.isEmpty then KeyMap.standard else map }

/-- The key that a character stands for, capital letters counting as small. -/
def keyOf? (s : KeySource τ) (char : String) : Option Int :=
  s.keyMap.lookup (Text.lower char)

def isHeld (s : KeySource τ) (key : Int) : Bool :=
  s.held.any (·.key = key)

/-- Holds a key until a deadline; a held key keeps its place. -/
def hold (s : KeySource τ) (key : Int) (deadline : τ) : KeySource τ :=
  if s.isHeld key then
    { s with held := s.held.map fun h =>
        if h.key = key then ⟨key, deadline⟩ else h }
  else { s with held := s.held ++ [⟨key, deadline⟩] }

def feed (p : HoldPolicy τ) (s : KeySource τ) (char : String) (now : τ) :
    KeySource τ × List HostKeyEvent :=
  if quitKeys.contains char then ({ s with quit := true }, [])
  else
    match s.keyOf? char with
    | none => (s, [])
    | some key =>
      (s.hold key (p.deadline now), if s.isHeld key then [] else [⟨key, true⟩])

/-- Releases the keys whose time has come, in the order in which they were
pressed. -/
def expire (p : HoldPolicy τ) (s : KeySource τ) (now : τ) :
    KeySource τ × List HostKeyEvent :=
  ({ s with held := s.held.filter fun h => !p.due now h.deadline },
    (s.held.filter fun h => p.due now h.deadline).map fun h => ⟨h.key, false⟩)

end KeySource

end Chip8
