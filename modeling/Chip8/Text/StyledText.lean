import Chip8.Text.Grapheme

/-!
# Styled text

A text with styles on parts of it. What changes the text moves its spans along.

A text on a terminal is written segment by segment: it is cut wherever a span
begins or ends, also if the span is empty. A segment is measured by itself, so
a joiner at its end joins nothing, and a line of segments may take more cells
than the line as a whole. `cropSegments` cuts a line by the cells of its
segments.
-/

namespace Chip8.Text

structure StyleSpan where
  start : Nat
  stop : Nat
  style : String
  deriving DecidableEq, Repr

structure StyledText where
  chars : List Char
  spans : List StyleSpan := []
  deriving DecidableEq, Repr

/-- Characters, each with the number of times that it stands there once tabs
are blanks; `column` columns are taken. A tab is at least one blank and reaches
to a multiple of `stop` columns. -/
def tabCounts (stop column : Nat) (cs : List Char) : List (Char × Nat) :=
  let part := cs.takeWhile (· ≠ '\t')
  match _h : cs.dropWhile (· ≠ '\t') with
  | [] => part.map (·, 1)
  | _ :: rest =>
    let reached := column + cellWidth (part ++ [' '])
    let missing := (stop - reached % stop) % stop
    part.map (·, 1) ++
      (' ', missing + 1) :: tabCounts stop (reached + missing) rest
termination_by cs.length
decreasing_by
  have := (List.dropWhile_suffix (· ≠ '\t') (l := cs)).length_le
  rw [_h, List.length_cons] at this
  exact this

namespace StyleSpan

def move (s : StyleSpan) (f : Nat → Nat) : StyleSpan :=
  { s with start := f s.start, stop := f s.stop }

end StyleSpan

namespace StyledText

def onOneLine (t : StyledText) : StyledText :=
  { t with chars := t.chars.map fun c => if c = '\n' then ' ' else c }

/-- A text of one line with blanks in place of tabs. Where there is a tab,
empty spans are lost. -/
def expandTabs (stop : Nat) (t : StyledText) : StyledText :=
  if t.chars.contains '\t' then
    let counts := tabCounts stop 0 t.chars
    let moved (place : Nat) := (counts.take place).foldl (fun n c => n + c.2) 0
    { chars := counts.flatMap fun c => List.replicate c.2 c.1
      spans := (t.spans.filter fun s => s.start < s.stop).map (·.move moved) }
  else t

def surround (before after : List Char) (t : StyledText) : StyledText :=
  { chars := before ++ t.chars ++ after
    spans := t.spans.map (·.move (· + before.length)) }

def truncate (w : Nat) (t : StyledText) : StyledText :=
  if cellWidth t.chars ≤ w then t
  else
    let chars := fitToCells w t.chars
    { chars
      spans := (t.spans.filter (·.start < chars.length)).map fun s =>
        { s with stop := min s.stop chars.length } }

def cuts (t : StyledText) : List Nat :=
  (t.spans.flatMap fun s => [s.start, s.stop]).mergeSort (· ≤ ·)

def cutAt (place : Nat) (cs : List Char) : List Nat → List (List Char)
  | [] => [cs]
  | cut :: rest =>
    cs.take (cut - place) :: cutAt cut (cs.drop (cut - place)) rest

def segments (t : StyledText) : List (List Char) :=
  cutAt 0 t.chars t.cuts

end StyledText

def segmentsWidth (line : List (List Char)) : Nat :=
  line.foldl (fun n s => n + cellWidth s) 0

/-- The segments that fit into `w` cells, the last of them cut or filled up. -/
def fitSegments (w : Nat) : List (List Char) → List Char
  | [] => []
  | s :: rest =>
    let width := cellWidth s
    if width < w then s ++ fitSegments (w - width) rest else fitToCells w s

def cropSegments (w : Nat) (line : List (List Char)) : List Char :=
  if segmentsWidth line ≤ w then line.flatten else fitSegments w line

end Chip8.Text
