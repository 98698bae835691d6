import Chip8.Listing.Item

/-!
# Listings

A listing takes its input two bytes at a time from the start; a last odd byte
makes an item of its own. The items stand at consecutive even distances from
the base address. `Listing.ofBytes` can end a listing early and can note at
each item how its address is used by the jumps and calls of the listing.

Uses are collected in one pass into a table over all operand addresses
(`Targets`), which the items then look up.
-/

namespace Chip8.Listing

def itemsFrom (base : Int) : List UInt8 → List Item
  | [] => []
  | [b] => [⟨base, .byte b, []⟩]
  | high :: low :: rest =>
    ⟨base, .word high low, []⟩ :: itemsFrom (base + 2) rest

@[simp] theorem itemsFrom_nil (base : Int) : itemsFrom base [] = [] := rfl

@[simp] theorem itemsFrom_singleton (base : Int) (b : UInt8) :
    itemsFrom base [b] = [⟨base, .byte b, []⟩] := rfl

theorem itemsFrom_cons_cons (base : Int) (high low : UInt8)
    (rest : List UInt8) :
    itemsFrom base (high :: low :: rest) =
      ⟨base, .word high low, []⟩ :: itemsFrom (base + 2) rest := rfl

def first? (base : Int) (bytes : List UInt8) : Option Item :=
  (itemsFrom base (bytes.take 2)).head?

/-- The items that a limit leaves: all for zero, else as many as it says, but
at least one. -/
def limited (limit : Int) (items : List Item) : List Item :=
  if limit = 0 then items else items.take (max 1 limit.toNat)

def branch? (i : Item) : Option (Address × Use) :=
  match i.instruction? with
  | some (.jump nnn) => some (nnn, .jumped)
  | some (.call nnn) => some (nnn, .called)
  | _ => none

abbrev Targets := Vector (List Use) 4096

namespace Targets

def empty : Targets :=
  Vector.replicate 4096 []

/-- Adds a use; one that is known already is not repeated. -/
def add (t : Targets) (branch : Address × Use) : Targets :=
  let known := t[branch.1]
  if known.contains branch.2 then t else t.set branch.1 (known ++ [branch.2])

def ofItems (items : List Item) : Targets :=
  (items.filterMap branch?).foldl add empty

/-- How an address is used; one that is no operand address is not. -/
def uses (t : Targets) (a : Int) : List Use :=
  ((Address.ofInt? a).map t.get).getD []

end Targets

def annotated (items : List Item) : List Item :=
  let targets := Targets.ofItems items
  items.map fun i => { i with uses := targets.uses i.address }

def ofBytes (annotate : Bool) (base limit : Int) (bytes : List UInt8) :
    List Item :=
  let items := limited limit (itemsFrom base bytes)
  if annotate then annotated items else items

def ofHex (annotate : Bool) (base limit : Int) (text : String) :
    Except Text.HexError (List Item) :=
  (Text.bytesOfHex text).map (ofBytes annotate base limit)

def text (items : List Item) : String :=
  "\n".intercalate (items.map Item.line)

end Chip8.Listing
