import Chip8.Device
import Chip8.Screen.Text
import Chip8.Text.Markup
import Chip8.Text.Numeral

/-!
# Panel

A surface that draws its frame in half blocks inside a rounded box, with a
title in the upper border. It keeps the latest frame and writes it once, when
it is closed; a panel that was never given a frame writes nothing.

The box is as wide as the frame needs or, if that is more, as the title needs,
but never wider than the terminal. The title is marked-up text. It has a blank
on either side and stands in the middle; if the dashes beside it cannot be
shared evenly, the right side gets the odd one.

A title that cannot be read is found out when the panel is closed. The panel
then writes nothing and is left half closed: it takes no more frames, and
closing it once more closes it for good.
-/

namespace Chip8

inductive PanelState where
  | idle
  | showing (f : Frame)
  /-- It could not write its frame. -/
  | halfClosed
  deriving DecidableEq

structure Panel where
  width : Nat
  title : String
  state : PanelState := .idle

namespace Panel

open Text

def defaultTitle : String := "CHIP-8"

/-- The columns of a frame with a blank on either side. -/
def frameColumns : Nat := 66

def tabStop : Nat := 8

/-- The title as it stands in the border: on one line, between blanks. -/
def titleText (p : Panel) : Except Markup.Error StyledText :=
  (Markup.read p.title.toList).map fun t =>
    (t.onOneLine.expandTabs tabStop).surround [' '] [' ']

def innerWidth (p : Panel) (title : StyledText) : Nat :=
  min (p.width - 2) (max frameColumns (cellWidth title.chars + 2))

def dashes (n : Nat) : List Char :=
  List.replicate n '─'

def centred (columns : Nat) (text : StyledText) : StyledText :=
  let text := text.truncate columns
  let room := columns - cellWidth text.chars
  text.surround (dashes (room / 2)) (dashes (room - room / 2))

/-- Checks that the styles of a text can be read, or are none at all. -/
def checkStyles (text : StyledText) : Except Markup.Error Unit :=
  text.spans.forM fun s => (Style.check s.style.toList).mapError .style

def titleLine (p : Panel) (columns : Nat) (title : StyledText) :
    Except Markup.Error String := do
  let title := centred (columns - 2) title
  checkStyles title
  return String.ofList <| cropSegments p.width <|
    ['╭', '─'] :: title.segments ++ [['─', '╮']]

def plainTopLine (columns : Nat) : String :=
  String.ofList ('╭' :: dashes columns ++ ['╮'])

def textLine (columns : Nat) (line : String) : String :=
  "│ " ++ Text.padRight (columns - 2) line ++ " │"

def bottomLine (columns : Nat) : String :=
  String.ofList ('╰' :: dashes columns ++ ['╯'])

/-- A box of so many columns around a frame, without an end of line after
it. -/
def box (topLine : String) (columns : Nat) (f : Frame) : String :=
  "\n".intercalate
    (topLine :: f.halfBlockLines.map (textLine columns) ++
      [bottomLine columns])

def render (p : Panel) (f : Frame) : Except Markup.Error String :=
  if p.title.isEmpty then .ok (box (plainTopLine frameColumns) frameColumns f)
  else do
    let title ← p.titleText
    let columns := p.innerWidth title
    return box (← p.titleLine columns title) columns f

/-- Whether the panel has been given frames and was not closed after that. -/
def live (p : Panel) : Bool :=
  p.state ≠ .idle

def present (f : Frame) (p : Panel) : Panel :=
  match p.state with
  | .idle | .showing _ => { p with state := .showing f }
  | .halfClosed => p

def close (p : Panel) : Except Markup.Error String × Panel :=
  match p.state with
  | .idle | .halfClosed => (.ok "", { p with state := .idle })
  | .showing f =>
    match p.render f with
    | .ok text => (.ok text, { p with state := .idle })
    | .error e => (.error e, { p with state := .halfClosed })

end Panel

instance : Surface Panel where
  present := Panel.present

end Chip8
