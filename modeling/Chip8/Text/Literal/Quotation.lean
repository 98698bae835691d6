import Chip8.Text.Literal.Place
import Chip8.Text.Literal.Reader

/-!
# Quotations side by side

Quotations side by side write down one text, or bytes if all of them do. Each
is read before it is compared with the one in front of it, but the places of a
formatted one are read after that.
-/

namespace Chip8.Text.Literal

namespace Quotation

def fault? (q : Quotation) : Option QuotationError :=
  if q.bytes then
    if q.body.any (128 ≤ ·.toNat) then some .beyondASCII
    else if q.raw then none
    else byteEscapeError? q.body
  else if q.raw then none
  else escapeError? q.body

def places (expression : Nat → List Char → Except Halt Expression)
    (q : Quotation) (line : Nat) : Except Halt (List Expression) :=
  if q.formatted then
    Place.read ⟨q.raw, .form ∘ .quotation, expression⟩ line q.body
  else
    match q.fault? with
    | some e => .error (.form (.quotation e))
    | none => .ok []

def allPlaces (expression : Nat → List Char → Except Halt Expression) :
    Option Quotation → List (Quotation × Nat) → Except Halt (List Expression)
  | _, [] => .ok []
  | before?, (q, line) :: rest => do
    let mixed := before?.any (·.bytes ≠ q.bytes)
    if mixed && q.formatted then throw (.form (.quotation .mixed))
    let parts ← q.places expression line
    if mixed then throw (.form (.quotation .mixed))
    return parts ++ (← allPlaces expression (some q) rest)

def joined (expression : Nat → List Char → Except Halt Expression)
    (qs : List (Quotation × Nat)) : Except Halt Expression := do
  let parts ← allPlaces expression none qs
  if qs.any (·.1.formatted) then return .ofParts .formatted parts
  else if qs.any (·.1.bytes) then return .constant .bytes
  else return .constant .text

end Quotation

end Chip8.Text.Literal
