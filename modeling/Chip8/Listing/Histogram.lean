import Chip8.Listing

/-!
# Histogram

How often each mnemonic occurs in a listing, most frequent first; mnemonics
that occur equally often stand in the order in which they first appear.
-/

namespace Chip8.Listing

/-- Counts one more occurrence; a new entry goes to the end. -/
def countOne (counts : List (String × Nat)) (mnemonic : String) :
    List (String × Nat) :=
  match counts with
  | [] => [(mnemonic, 1)]
  | (m, n) :: rest =>
    if m = mnemonic then (m, n + 1) :: rest
    else (m, n) :: countOne rest mnemonic

def counts (items : List Item) : List (String × Nat) :=
  (items.map Item.mnemonic).foldl countOne []

/-- The counts of all mnemonics, most frequent first. -/
def histogram (items : List Item) : List (String × Nat) :=
  (counts items).mergeSort fun a b => b.2 ≤ a.2

end Chip8.Listing
