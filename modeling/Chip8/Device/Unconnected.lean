/-!
# Unconnected devices

The device that stands where none was connected. It can be asked everything
that a surface or a tone can be asked, but it carries out nothing: every
request is refused, except closing the surface, where there is nothing to do.
It never sounds.
-/

namespace Chip8.Unconnected

inductive Request where
  | present
  | closeSurface
  | startTone
  | stopTone
  | closeTone
  deriving DecidableEq, Repr

inductive Refusal where
  | notImplemented
  deriving DecidableEq, Repr

def Refusal.message : Refusal → String
  | .notImplemented => ""

/-- The answer to a request. Closing the tone means to stop it first. -/
def answer : Request → Except Refusal Unit
  | .closeSurface => .ok ()
  | .present | .startTone | .stopTone | .closeTone => .error .notImplemented

def playing : Bool := false

end Chip8.Unconnected
