import Chip8.Text.CellWidth

/-!
# Graphemes

A grapheme is what a reader takes for one character: a character with the marks
that belong to it. Marks are the characters that take no cell, among them the
emoji selector, which asks for the character before it to be shown as an emoji,
and the joiner, which makes the character after it a mark as well.

A text takes the cells of its graphemes and is cut between them. Only a joiner
in front of a whole text is a matter of its own: it has nothing to join to, and
in measuring hides the character after it. So a text may take less or more
cells than its pieces do.
-/

namespace Chip8.Text

/-- Asks for the character before it to be shown as an emoji. -/
def emojiSelector : Char := '\ufe0f'

structure Grapheme where
  base : Char
  marks : List Char := []
  /-- Whether an emoji selector is among the marks, other than one that is
  joined. -/
  selected : Bool := false
  deriving DecidableEq, Repr

namespace Grapheme

def chars (g : Grapheme) : List Char :=
  g.base :: g.marks

def cells (g : Grapheme) : Nat :=
  charWidth g.base + if g.selected && isEmojiCapable g.base then 1 else 0

end Grapheme

/-- The marks that a text begins with, whether an emoji selector is among them,
and the graphemes after them. -/
def leadingMarks : List Char → List Char × Bool × List Grapheme
  | [] => ([], false, [])
  | '\u200d' :: c :: rest =>
    let (marks, selected, others) := leadingMarks rest
    ('\u200d' :: c :: marks, selected, others)
  | c :: rest =>
    let (marks, selected, others) := leadingMarks rest
    if c = emojiSelector then (c :: marks, true, others)
    else if charWidth c = 0 then (c :: marks, selected, others)
    else ([], false, ⟨c, marks, selected⟩ :: others)

def graphemes : List Char → List Grapheme
  | [] => []
  | c :: rest =>
    let (marks, selected, others) := leadingMarks rest
    ⟨c, marks, selected⟩ :: others

def cellWidth : List Char → Nat
  | '\u200d' :: _ :: rest => cellWidth rest
  | cs => (graphemes cs).foldl (fun n g => n + g.cells) 0

/-- The characters of as many graphemes as fit into `w` cells, filled up with
blanks. -/
def fillCells (w : Nat) : List Grapheme → List Char
  | [] => List.replicate w ' '
  | g :: rest =>
    if g.cells ≤ w then g.chars ++ fillCells (w - g.cells) rest
    else List.replicate w ' '

def fitToCells (w : Nat) (cs : List Char) : List Char :=
  let width := cellWidth cs
  if w = 0 then []
  else if width ≤ w then cs ++ List.replicate (w - width) ' '
  else fillCells w (graphemes cs)

end Chip8.Text
