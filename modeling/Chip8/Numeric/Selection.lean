/-!
# Selection by integers

Any integer may be given to select one of a number of places. From zero on it
counts from the front, below zero from the far end. An integer beyond either
end selects nothing, and one that does not fit into sixty-four bits is not even
looked at.
-/

namespace Chip8

inductive SelectionError where
  | outside
  /-- It does not fit into sixty-four bits. -/
  | oversize
  deriving DecidableEq, Repr

def SelectionError.message (container : String) : SelectionError → String
  | outside => container ++ " index out of range"
  | oversize => "cannot fit 'int' into an index-sized integer"

def fitsWord64 (z : Int) : Bool :=
  -0x8000000000000000 ≤ z && z < 0x8000000000000000

/-- The place that an integer selects among `size`. -/
def select (size : Nat) (z : Int) : Except SelectionError (Fin size) :=
  if !fitsWord64 z then .error .oversize
  else if h : 0 ≤ z ∧ z < size then .ok ⟨z.toNat, by omega⟩
  else if h : -size ≤ z ∧ z < 0 then .ok ⟨(z + size).toNat, by omega⟩
  else .error .outside

end Chip8
