import Chip8.Listing

/-!
# Comments that grow

The items of a listing start with empty comments. For each jump and each call
of the listing the name of its target is written into the comment there, behind
what is there already, unless the comment contains the name.
-/

namespace Chip8

def Text.occursIn (part : List Char) : List Char → Bool
  | [] => part.isEmpty
  | c :: rest => part.isPrefixOf (c :: rest) || occursIn part rest

namespace Listing

/-- An item with the comment that it has so far. -/
structure Marked where
  item : Item
  comment : String := ""
  deriving DecidableEq

def addNote (comment note : String) : String :=
  if Text.occursIn note.toList comment.toList then comment
  else if comment.isEmpty then note
  else comment ++ ", " ++ note

def noteAt (target : Address) (use : Use) (m : Marked) : Marked :=
  if m.item.address = target.val then
    { m with comment := addNote m.comment (Item.useName target.val use) }
  else m

def mark (marked : List Marked) (i : Item) : List Marked :=
  match branch? i with
  | some (target, use) => marked.map (noteAt target use)
  | none => marked

def marked (items : List Item) : List Marked :=
  items.foldl mark (items.map (⟨·, ""⟩))

end Listing

end Chip8
