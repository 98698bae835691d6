import Chip8.Keypad
import Chip8.KeySource

/-!
# Reading keys

A reader takes bytes from a pipe, one each turn, as characters of Latin-1, and
passes them to a key source, whose events go to a keypad. A turn without a byte
is idle; when the pipe has come to its end, all turns are. Whether idle or not,
every turn ends with the release of the keys whose time has come, so a steady
stream of bytes does not keep keys down.

`Reader.session` follows a reader from one idle turn to the next: before each
of them all waiting bytes are read, and in it the time and the pipe change as a
script says.
-/

namespace Chip8

structure Reader (τ : Type) where
  source : KeySource τ
  keypad : Keypad := Keypad.powerOn
  pipe : List UInt8 := []
  /-- Whether no more bytes will come. -/
  ended : Bool := false
  now : τ

structure Arrival (τ : Type) where
  now : τ
  bytes : List UInt8
  /-- Whether the pipe comes to its end after these bytes. -/
  ends : Bool := false

structure IdleView where
  snapshot : Snapshot
  /-- The keys held by the source, in the order in which they were pressed. -/
  held : List Int
  quit : Bool

namespace Reader

variable {τ : Type}

def pass (k : Keypad) (events : List HostKeyEvent) : Keypad :=
  k.enqueue (events.map fun e => ⟨Key.ofInt e.key, e.down⟩)

def feed (p : HoldPolicy τ) (r : Reader τ) (char : String) : Reader τ :=
  let (source, events) := r.source.feed p char r.now
  { r with source, keypad := pass r.keypad events }

def expire (p : HoldPolicy τ) (r : Reader τ) : Reader τ :=
  let (source, events) := r.source.expire p r.now
  { r with source, keypad := pass r.keypad events }

def latin1 (b : UInt8) : String :=
  String.ofList [Char.ofNat b.toNat]

/-- Takes a byte from the pipe; `none` if none is waiting, the empty text at
the end of the pipe. -/
def read (r : Reader τ) : Option String × Reader τ :=
  match r.pipe with
  | b :: pipe => (some (latin1 b), { r with pipe })
  | [] => (if r.ended then some "" else none, r)

def write (r : Reader τ) (bytes : List UInt8) : Reader τ :=
  { r with pipe := r.pipe ++ bytes }

def receive (r : Reader τ) (a : Arrival τ) : Reader τ :=
  { r with
    now := a.now, pipe := r.pipe ++ a.bytes, ended := r.ended || a.ends }

def turn (p : HoldPolicy τ) (r : Reader τ) (b : UInt8) : Reader τ :=
  (r.feed p (latin1 b)).expire p

def drain (p : HoldPolicy τ) (r : Reader τ) : Reader τ :=
  { r.pipe.foldl (turn p) r with pipe := [] }

/-- What is seen in an idle turn, after the keypad was polled. -/
def view (r : Reader τ) : IdleView :=
  ⟨r.keypad.snapshot, r.source.held.map (·.key), r.source.quit⟩

def poll (r : Reader τ) : Reader τ :=
  { r with keypad := r.keypad.poll }

/-- The idle turns of a reader while the given things arrive, one in each; the
reader stops in the idle turn after the last. -/
def session (p : HoldPolicy τ) (r : Reader τ) :
    List (Arrival τ) → List IdleView × Reader τ
  | [] =>
    let r := (r.drain p).poll
    ([r.view], r.expire p)
  | a :: rest =>
    let r := (r.drain p).poll
    let (views, last) := session p ((r.receive a).expire p) rest
    (r.view :: views, last)

end Reader

end Chip8
