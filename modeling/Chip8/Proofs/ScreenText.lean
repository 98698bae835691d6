import Chip8.Proofs.Drawing
import Chip8.Screen.Text
import Mathlib.Data.List.FinRange

/-!
# Frames read back from text

Either way to write a frame fills a grid: so many lines with so many characters
each. What is written is the text of a function from places to characters
(`gridText`), and a grid is known from the characters at its places
(`IsGrid.eq_gridText`). So it is enough to look at one place at a time. In half
blocks a place shows two pixels of a column, and `fills_block` takes them apart
again.

The readers go the other way and refuse every text that is not a grid of their
own characters. A frame is read from the text that was written for it and from
no other one (`ofGrid?_eq_some_iff`).
-/

namespace Chip8

/-! ## Grids of characters -/

namespace Text

def linesOf (s : String) : List (List Char) :=
  s.toList.splitOn '\n'

/-- The character in a column of a line of a text, both counted from zero. -/
def glyph? (s : String) (line column : Nat) : Option Char :=
  (linesOf s)[line]?.bind (·[column]?)

/-- A text is a grid: so many lines of so many characters each, all of them
from an alphabet. -/
structure IsGrid (height width : Nat) (alphabet : List Char) (s : String) :
    Prop where
  height : (linesOf s).length = height
  width : ∀ l ∈ linesOf s, l.length = width
  glyphs : ∀ l ∈ linesOf s, ∀ c ∈ l, c ∈ alphabet

theorem isGrid_iff_all {height width : Nat} {alphabet : List Char}
    {s : String} :
    IsGrid height width alphabet s ↔ (linesOf s).length = height ∧
      (linesOf s).all fun l =>
        l.length == width && l.all (alphabet.contains ·) := by
  simp only [List.all_eq_true, Bool.and_eq_true, beq_iff_eq,
    List.contains_iff_mem]
  constructor
  · rintro ⟨hheight, hwidth, hglyphs⟩
    exact ⟨hheight, fun l hl => ⟨hwidth l hl, hglyphs l hl⟩⟩
  · rintro ⟨hheight, hlines⟩
    exact ⟨hheight, fun l hl => (hlines l hl).1, fun l hl => (hlines l hl).2⟩

instance (height width : Nat) (alphabet : List Char) (s : String) :
    Decidable (IsGrid height width alphabet s) :=
  decidable_of_iff' _ isGrid_iff_all

theorem glyph?_eq_getElem {s : String} {l x : Nat}
    (hl : l < (linesOf s).length) (hx : x < (linesOf s)[l].length) :
    glyph? s l x = some (linesOf s)[l][x] := by
  rw [glyph?, List.getElem?_eq_getElem hl, Option.bind_some,
    List.getElem?_eq_getElem hx]

/-- The text that has a given character at each place of a grid. -/
def gridText {height width : Nat} (g : Fin height → Fin width → Char) :
    String :=
  "\n".intercalate (List.ofFn fun l => String.ofList (List.ofFn (g l)))

variable {height width : Nat} {alphabet : List Char}
  {g : Fin height → Fin width → Char} {s : String}

theorem toList_gridText (g : Fin height → Fin width → Char) :
    (gridText g).toList =
      ['\n'].intercalate (List.ofFn fun l => List.ofFn (g l)) := by
  have hlines :
      (List.ofFn fun l => String.ofList (List.ofFn (g l))).map String.toList =
      List.ofFn fun l => List.ofFn (g l) := by
    rw [List.map_ofFn]
    simp only [Function.comp_def, String.toList_ofList]
  rw [gridText, String.toList_intercalate, hlines]
  rfl

theorem linesOf_gridText (hheight : 0 < height) (hg : ∀ l x, g l x ≠ '\n') :
    linesOf (gridText g) = List.ofFn fun l => List.ofFn (g l) := by
  rw [linesOf, toList_gridText]
  refine List.splitOn_intercalate '\n' ?_ ?_
  · intro l hl
    obtain ⟨i, rfl⟩ := List.mem_ofFn.mp hl
    intro hmem
    obtain ⟨x, hx⟩ := List.mem_ofFn.mp hmem
    exact hg i x hx
  · rw [ne_eq, List.ofFn_eq_nil_iff]
    omega

theorem glyph?_gridText (hg : ∀ l x, g l x ≠ '\n') (l : Fin height)
    (x : Fin width) :
    glyph? (gridText g) l x = some (g l x) := by
  rw [glyph?, linesOf_gridText l.pos hg]
  simp

theorem isGrid_gridText (hheight : 0 < height) (halphabet : '\n' ∉ alphabet)
    (hg : ∀ l x, g l x ∈ alphabet) :
    IsGrid height width alphabet (gridText g) := by
  have hline : ∀ l x, g l x ≠ '\n' := fun l x h => halphabet (h ▸ hg l x)
  have hlines := linesOf_gridText hheight hline
  constructor
  · rw [hlines, List.length_ofFn]
  · intro l hl
    rw [hlines] at hl
    obtain ⟨i, rfl⟩ := List.mem_ofFn.mp hl
    exact List.length_ofFn
  · intro l hl c hc
    rw [hlines] at hl
    obtain ⟨i, rfl⟩ := List.mem_ofFn.mp hl
    obtain ⟨x, rfl⟩ := List.mem_ofFn.mp hc
    exact hg i x

namespace IsGrid

theorem exists_glyph (h : IsGrid height width alphabet s) (l : Fin height)
    (x : Fin width) :
    ∃ c ∈ alphabet, glyph? s l x = some c := by
  have hl : l.val < (linesOf s).length := by rw [h.height]; exact l.isLt
  have hx : x.val < (linesOf s)[l.val].length := by
    rw [h.width _ (List.getElem_mem hl)]
    exact x.isLt
  exact ⟨_, h.glyphs _ (List.getElem_mem hl) _ (List.getElem_mem hx),
    glyph?_eq_getElem hl hx⟩

theorem eq_gridText (h : IsGrid height width alphabet s)
    (hg : ∀ (l : Fin height) (x : Fin width), glyph? s l x = some (g l x)) :
    s = gridText g := by
  have hlines : linesOf s = List.ofFn fun l => List.ofFn (g l) := by
    refine List.ext_getElem (by rw [h.height, List.length_ofFn])
      fun l hl hl' => ?_
    have hwidth := h.width _ (List.getElem_mem hl)
    refine List.ext_getElem (by simpa using hwidth) fun x hx hx' => ?_
    have hplace := hg ⟨l, h.height ▸ hl⟩ ⟨x, hwidth ▸ hx⟩
    rw [glyph?_eq_getElem hl hx, Option.some.injEq] at hplace
    simpa using hplace
  rw [← String.toList_inj, toList_gridText, ← hlines]
  exact (List.intercalate_splitOn '\n').symm

end IsGrid

end Text

namespace Frame

open Text

/-! ## Reading a grid -/

def ofLit (p : Column → Row → Bool) : Frame :=
  ⟨Vector.ofFn fun i => p ⟨i.val % 64, by omega⟩ ⟨i.val / 64, by omega⟩⟩

@[simp] theorem lit_ofLit (p : Column → Row → Bool) (x : Column) (y : Row) :
    (ofLit p).lit x y = p x y := by
  have hx : (64 * y.val + x.val) % 64 = x.val := by omega
  have hy : (64 * y.val + x.val) / 64 = y.val := by omega
  simp only [ofLit, lit, index, Fin.getElem_fin, Vector.getElem_ofFn, hx, hy]

/-- The frame that a grid shows, with a way to tell its pixels; no other text
shows one. -/
def ofGrid? (height width : Nat) (alphabet : List Char)
    (pixel : String → Column → Row → Bool) (s : String) : Option Frame :=
  if IsGrid height width alphabet s then some (ofLit (pixel s)) else none

/-- A frame is read from what was written for it, and from nothing else, if the
pixels are told from what was written and what was written is told from the
pixels. -/
theorem ofGrid?_eq_some_iff {height width : Nat} {alphabet : List Char}
    {pixel : String → Column → Row → Bool}
    (cell : Frame → Fin height → Fin width → Char)
    (hgrid : ∀ f, IsGrid height width alphabet (gridText (cell f)))
    (hpixel : ∀ f x y, pixel (gridText (cell f)) x y = f.lit x y)
    (hcell : ∀ s, IsGrid height width alphabet s →
      ∀ (l : Fin height) (x : Fin width),
        glyph? s l x = some (cell (ofLit (pixel s)) l x))
    {s : String} {f : Frame} :
    ofGrid? height width alphabet pixel s = some f ↔
      s = gridText (cell f) := by
  constructor
  · intro h
    obtain ⟨hs, hframe⟩ := Option.ite_none_right_eq_some.mp h
    obtain rfl := Option.some.inj hframe
    exact hs.eq_gridText (hcell s hs)
  · rintro rfl
    rw [ofGrid?, if_pos (hgrid f), Option.some.injEq]
    exact ext_lit fun x y => by rw [lit_ofLit, hpixel]

/-! ## Two rows to a line -/

theorem upperRow_lt (l : Fin 16) : 2 * l.val < 32 := by
  omega

theorem lowerRow_lt (l : Fin 16) : 2 * l.val + 1 < 32 := by
  omega

def upperRow (l : Fin 16) : Row :=
  ⟨2 * l.val, upperRow_lt l⟩

def lowerRow (l : Fin 16) : Row :=
  ⟨2 * l.val + 1, lowerRow_lt l⟩

def lineOf (y : Row) : Fin 16 :=
  ⟨y.val / 2, by omega⟩

@[simp] theorem lineOf_upperRow (l : Fin 16) : lineOf (upperRow l) = l :=
  Fin.ext (by simp only [lineOf, upperRow]; omega)

@[simp] theorem lineOf_lowerRow (l : Fin 16) : lineOf (lowerRow l) = l :=
  Fin.ext (by simp only [lineOf, lowerRow]; omega)

theorem exists_line (y : Row) : ∃ l, upperRow l = y ∨ lowerRow l = y := by
  refine ⟨lineOf y, ?_⟩
  rcases Nat.mod_two_eq_zero_or_one y.val with hy | hy
  · exact .inl (Fin.ext (by simp only [upperRow, lineOf]; omega))
  · exact .inr (Fin.ext (by simp only [lowerRow, lineOf]; omega))

def blocks : List Char :=
  [' ', '▀', '▄', '█']

theorem mem_blocks_iff {c : Char} :
    c ∈ blocks ↔ ∃ up down, halfBlock up down = c := by
  constructor
  · intro hc
    simp only [blocks, List.mem_cons, List.not_mem_nil, or_false] at hc
    obtain rfl | rfl | rfl | rfl := hc
    · exact ⟨false, false, rfl⟩
    · exact ⟨true, false, rfl⟩
    · exact ⟨false, true, rfl⟩
    · exact ⟨true, true, rfl⟩
  · rintro ⟨up, down, rfl⟩
    cases up <;> cases down <;> decide

/-- Whether a half block is filled at a row: its upper half stands for the even
row of the line, its lower half for the odd one. -/
def fills (y : Row) (glyph : Char) : Bool :=
  glyph = '█' ∨ (glyph = '▀' ∧ y.val % 2 = 0) ∨ (glyph = '▄' ∧ y.val % 2 = 1)

theorem fills_eq_true_iff {y : Row} {c : Char} :
    fills y c = true ↔ c = '█' ∨ (c = '▀' ∧ y.val % 2 = 0) ∨
      (c = '▄' ∧ y.val % 2 = 1) :=
  decide_eq_true_iff

@[simp] theorem fills_upperRow (up down : Bool) (l : Fin 16) :
    fills (upperRow l) (halfBlock up down) = up := by
  have hparity : 2 * l.val % 2 = 0 := by omega
  cases up <;> cases down <;> simp [fills, halfBlock, upperRow, hparity]

@[simp] theorem fills_lowerRow (up down : Bool) (l : Fin 16) :
    fills (lowerRow l) (halfBlock up down) = down := by
  have hparity : (2 * l.val + 1) % 2 = 1 := by omega
  cases up <;> cases down <;> simp [fills, halfBlock, lowerRow, hparity]

def block (f : Frame) (l : Fin 16) (x : Column) : Char :=
  halfBlock (f.lit x (upperRow l)) (f.lit x (lowerRow l))

theorem block_mem_blocks (f : Frame) (l : Fin 16) (x : Column) :
    f.block l x ∈ blocks :=
  mem_blocks_iff.mpr ⟨_, _, rfl⟩

/-- Each pixel is shown by the half block in its column of its line. -/
theorem fills_block (f : Frame) (x : Column) (y : Row) :
    fills y (f.block (lineOf y) x) = f.lit x y := by
  obtain ⟨l, rfl | rfl⟩ := exists_line y
  · rw [lineOf_upperRow, block, fills_upperRow]
  · rw [lineOf_lowerRow, block, fills_lowerRow]

theorem halfBlocks_eq_gridText (f : Frame) :
    f.halfBlocks = gridText f.block := by
  rw [halfBlocks, halfBlockLines, gridText, List.ofFn_eq_map]
  simp only [halfBlockLine, List.ofFn_eq_map]
  rfl

theorem isGrid_block (f : Frame) : IsGrid 16 64 blocks (gridText f.block) :=
  isGrid_gridText (by decide) (by decide) f.block_mem_blocks

theorem glyph?_block (f : Frame) (l : Fin 16) (x : Column) :
    glyph? (gridText f.block) l x = some (f.block l x) := by
  refine glyph?_gridText (fun l x h => ?_) l x
  -- an end of line is no half block
  exact absurd (h ▸ f.block_mem_blocks l x) (by decide)

def ofHalfBlocks? (s : String) : Option Frame :=
  ofGrid? 16 64 blocks (fun s x y => (glyph? s (lineOf y) x).any (fills y)) s

theorem ofHalfBlocks?_eq_some_iff {s : String} {f : Frame} :
    ofHalfBlocks? s = some f ↔ s = f.halfBlocks := by
  rw [halfBlocks_eq_gridText]
  refine ofGrid?_eq_some_iff block isGrid_block ?_ ?_
  · intro f x y
    rw [glyph?_block, Option.any_some, fills_block]
  · intro s hs l x
    obtain ⟨c, hc, hglyph⟩ := hs.exists_glyph l x
    -- whatever half block stands there, its halves are the pixels read, which
    -- make it again
    obtain ⟨up, down, rfl⟩ := mem_blocks_iff.mp hc
    simp [block, hglyph]

/-! ## One row to a line -/

def letter (f : Frame) (on off : Char) (y : Row) (x : Column) : Char :=
  if f.lit x y then on else off

theorem letter_mem (f : Frame) (on off : Char) (y : Row) (x : Column) :
    f.letter on off y x ∈ [on, off] := by
  rw [letter]
  split <;> simp

theorem plain_eq_gridText (f : Frame) (on off : Char) :
    f.plain (.singleton on) (.singleton off) = gridText (f.letter on off) := by
  have hpixel (y : Row) (x : Column) :
      (if f.lit x y then String.singleton on else .singleton off) =
        .singleton (f.letter on off y x) := by
    rw [letter]
    split <;> rfl
  have hline (y : Row) :
      String.join
        ((List.finRange 64).map fun x => .singleton (f.letter on off y x)) =
        .ofList (List.ofFn (f.letter on off y)) := by
    rw [← String.toList_inj, String.toList_join, List.flatMap_map,
      String.toList_ofList, List.ofFn_eq_map, List.map_eq_flatMap]
    simp only [String.toList_singleton]
  simp only [plain, hpixel, hline, gridText, List.ofFn_eq_map]

theorem isGrid_letter (f : Frame) {on off : Char} (hon : on ≠ '\n')
    (hoff : off ≠ '\n') :
    IsGrid 32 64 [on, off] (gridText (f.letter on off)) :=
  isGrid_gridText (by decide) (by simp [hon.symm, hoff.symm])
    (f.letter_mem on off)

theorem glyph?_letter (f : Frame) {on off : Char} (hon : on ≠ '\n')
    (hoff : off ≠ '\n') (y : Row) (x : Column) :
    glyph? (gridText (f.letter on off)) y x = some (f.letter on off y x) := by
  refine glyph?_gridText (fun y x => ?_) y x
  rw [letter]
  split
  · exact hon
  · exact hoff

def ofPlain? (on off : Char) (s : String) : Option Frame :=
  ofGrid? 32 64 [on, off] (fun s x y => glyph? s y x = some on) s

theorem ofPlain?_eq_some_iff {on off : Char} (hne : on ≠ off) (hon : on ≠ '\n')
    (hoff : off ≠ '\n') {s : String} {f : Frame} :
    ofPlain? on off s = some f ↔
      s = f.plain (.singleton on) (.singleton off) := by
  rw [plain_eq_gridText]
  refine ofGrid?_eq_some_iff (fun f => f.letter on off)
    (fun f => f.isGrid_letter hon hoff) ?_ ?_
  · intro f x y
    rw [f.glyph?_letter hon hoff, letter]
    cases f.lit x y
    · simp [hne.symm]
    · simp
  · intro s hs y x
    obtain ⟨c, hc, hglyph⟩ := hs.exists_glyph y x
    simp only [List.mem_cons, List.not_mem_nil, or_false] at hc
    obtain rfl | rfl := hc
    · simp [letter, hglyph]
    · simp [letter, hglyph, hne.symm]

/-! ## Nothing is lost -/

/-- Rendering loses nothing. In half blocks the frame is on its grid pixel by
pixel, no other frame has that text, and the frame is read from it alone.
Written pixel by pixel with two characters, it is read from that text alone,
too, and is the same. -/
theorem read_of_rendered (f : Frame) :
    IsGrid 16 64 [' ', '▀', '▄', '█'] f.halfBlocks ∧
      (∀ (x : Column) (y : Row), f.lit x y = true ↔
        glyph? f.halfBlocks (y.val / 2) x = some '█' ∨
          (glyph? f.halfBlocks (y.val / 2) x = some '▀' ∧ y.val % 2 = 0) ∨
          (glyph? f.halfBlocks (y.val / 2) x = some '▄' ∧ y.val % 2 = 1)) ∧
      (∀ g : Frame, g ≠ f → g.halfBlocks ≠ f.halfBlocks) ∧
      (∀ s : String, ofHalfBlocks? s = some f ↔ s = f.halfBlocks) ∧
      ∀ on off : Char, on ≠ off → on ≠ '\n' → off ≠ '\n' →
        (∀ s : String, ofPlain? on off s = some f ↔
          s = f.plain (.singleton on) (.singleton off)) ∧
        ofPlain? on off (f.plain (.singleton on) (.singleton off)) =
          ofHalfBlocks? f.halfBlocks := by
  have hgrid : IsGrid 16 64 blocks f.halfBlocks :=
    f.halfBlocks_eq_gridText ▸ f.isGrid_block
  refine ⟨hgrid, fun x y => ?_, fun g hne heq => ?_, fun s =>
    ofHalfBlocks?_eq_some_iff, fun on off hne hon hoff =>
    ⟨fun s => ofPlain?_eq_some_iff hne hon hoff, ?_⟩⟩
  · have hglyph :
        glyph? f.halfBlocks (y.val / 2) x = some (f.block (lineOf y) x) := by
      rw [halfBlocks_eq_gridText]
      exact f.glyph?_block (lineOf y) x
    simp only [hglyph, Option.some.injEq]
    rw [← fills_block, fills_eq_true_iff]
  · have hread : ofHalfBlocks? f.halfBlocks = some g :=
      ofHalfBlocks?_eq_some_iff.mpr heq.symm
    rw [ofHalfBlocks?_eq_some_iff.mpr rfl, Option.some.injEq] at hread
    exact hne hread.symm
  · rw [(ofPlain?_eq_some_iff hne hon hoff).mpr rfl,
      ofHalfBlocks?_eq_some_iff.mpr rfl]

/-- The pixels of two opposite corners, the last one in the lower half of its
block. -/
theorem corners_read_of_rendered :
    let f := (dark.set 0 0 true).set 63 31 true
    '#' ≠ '.' ∧ '#' ≠ '\n' ∧ '.' ≠ '\n' ∧ glyph? f.halfBlocks 15 63 =
      some '▄' ∧ f.halfBlocks ≠ dark.halfBlocks ∧
      ofPlain? '#' '.' (f.plain "#" ".") = ofHalfBlocks? f.halfBlocks := by
  intro f
  obtain ⟨-, hpixels, hother, -, hplain⟩ := read_of_rendered f
  have hne : '#' ≠ '.' := by decide
  have hon : '#' ≠ '\n' := by decide
  have hoff : '.' ≠ '\n' := by decide
  have hlit : f.lit 63 31 = true := by simp [f, lit_set]
  have hdark : f.lit 63 30 ≠ true := by simp [f, lit_set]
  have hdiffer : dark ≠ f := fun h => by
    rw [← h, lit_dark] at hlit
    exact nomatch hlit
  refine ⟨hne, hon, hoff, ?_, (hother dark hdiffer).symm,
    (hplain '#' '.' hne hon hoff).2⟩
  -- not the full block, since the pixel above is dark
  have hlower : glyph? f.halfBlocks 15 63 ≠ some '█' := fun h =>
    hdark ((hpixels 63 30).mpr (.inl h))
  obtain h | ⟨-, h⟩ | ⟨h, -⟩ := (hpixels 63 31).mp hlit
  · exact absurd h hlower
  · exact absurd h (by decide)
  · exact h

end Frame

end Chip8
