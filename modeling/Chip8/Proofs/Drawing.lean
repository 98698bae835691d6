import Chip8.Proofs.Accesses
import Mathlib.Data.List.Nodup
import Mathlib.Data.Nat.Bitwise

/-!
# Sprites are drawn by exclusive or

A sprite is drawn pixel by pixel, and each turn looks at the picture that the
turns before it left. `Stamp.Inks` tells of a pixel by itself whether the
sprite inverts it: a row of the sprite lies over it, is inside memory, and has
its bit there set. That is all that matters, since no two bits of a sprite lie
over the same pixel: a sprite is less than 16 rows high and 8 columns wide, and
so fits around the edges without meeting itself.

So the loops draw a list of pixels without repetitions (`Stamp.pixels`), after
which a pixel shows what it showed before, inverted if it is in the list, and
there was a collision exactly if some pixel in the list was lit at the start
(`Sprite.lit_drawPixels`, `Sprite.collision_drawPixels`). `Core.Drawn` collects
what an instruction that draws does.
-/

namespace Chip8

namespace Frame

theorem ext_lit {f g : Frame} (h : ∀ x y, f.lit x y = g.lit x y) : f = g := by
  obtain ⟨f⟩ := f
  obtain ⟨g⟩ := g
  congr 1
  ext i hi
  have hplace : 64 * (i / 64) + i % 64 = i := Nat.div_add_mod i 64
  have hlit := h ⟨i % 64, by omega⟩ ⟨i / 64, by omega⟩
  simpa only [lit, index, Fin.getElem_fin, hplace] using hlit

theorem lit_flip (f : Frame) (x x' : Column) (y y' : Row) :
    (f.flip x y).lit x' y' = (f.lit x' y' ^^ decide ((x', y') = (x, y))) := by
  rw [flip, lit_set]
  by_cases h : x = x' ∧ y = y'
  · obtain ⟨rfl, rfl⟩ := h
    simp
  · have hne : (x', y') ≠ (x, y) := by
      rintro heq
      cases heq
      exact h ⟨rfl, rfl⟩
    rw [if_neg h, decide_eq_false hne, Bool.xor_false]

end Frame

namespace Sprite

theorem bit_eq_true_iff (b : UInt8) {k : Nat} (h : k < 8) :
    bit b k = true ↔ b &&& (0x80 >>> UInt8.ofNat k) ≠ 0 := by
  have hmask : ((0x80 : UInt8) >>> UInt8.ofNat k).toNat = 2 ^ (7 - k) := by
    have hk : (UInt8.ofNat k).toNat % 8 = k := by
      rw [UInt8.toNat_ofNat']
      omega
    rw [UInt8.toNat_shiftRight, hk, Nat.shiftRight_eq_div_pow]
    exact Nat.pow_div (Nat.le_of_lt_succ h) Nat.two_pos
  rw [ne_eq, ← UInt8.toNat_inj, UInt8.toNat_and, hmask, Nat.and_two_pow, bit]
  cases b.toNat.testBit (7 - k) with
  | false => simp
  | true => simp

theorem column_inj {x k k' : Nat} (hk : k < 8) (hk' : k' < 8)
    (h : column x k = column x k') :
    k = k' := by
  simp only [column, Fin.mk.injEq] at h
  omega

def drawPixels (d : Drawing) (pixels : List (Column × Row)) : Drawing :=
  pixels.foldl (fun d p => drawPixel d p.1 p.2) d

@[simp] theorem drawPixels_nil (d : Drawing) : drawPixels d [] = d := rfl

theorem drawPixels_cons (d : Drawing) (p : Column × Row)
    (pixels : List (Column × Row)) :
    drawPixels d (p :: pixels) = drawPixels (drawPixel d p.1 p.2) pixels := rfl

theorem drawPixels_append (d : Drawing)
    (pixels pixels' : List (Column × Row)) :
    drawPixels d (pixels ++ pixels') =
      drawPixels (drawPixels d pixels) pixels' :=
  List.foldl_append

/-- Each pixel of a list without repetitions is inverted once. -/
theorem lit_drawPixels {pixels : List (Column × Row)} (hn : pixels.Nodup)
    (d : Drawing) (x : Column) (y : Row) :
    (drawPixels d pixels).frame.lit x y =
      (d.frame.lit x y ^^ pixels.contains (x, y)) := by
  induction pixels generalizing d with
  | nil => simp
  | cons p rest ih =>
      obtain ⟨hp, hrest⟩ := List.nodup_cons.mp hn
      rw [drawPixels_cons, ih hrest, drawPixel, Frame.lit_flip, Bool.xor_assoc]
      congr 1
      by_cases hxy : (x, y) = p
      · subst hxy
        simp [hp]
      · simp [hxy]

/-- The pictures that earlier turns left do not matter for the collision
either: the pixels still to be drawn are as they were at the start. -/
theorem collision_drawPixels {pixels : List (Column × Row)} (hn : pixels.Nodup)
    (d : Drawing) :
    (drawPixels d pixels).collision = true ↔
      d.collision = true ∨ ∃ p ∈ pixels, d.frame.lit p.1 p.2 = true := by
  induction pixels generalizing d with
  | nil => simp
  | cons p rest ih =>
      obtain ⟨hp, hrest⟩ := List.nodup_cons.mp hn
      have hkept : ∀ q ∈ rest,
          (drawPixel d p.1 p.2).frame.lit q.1 q.2 = d.frame.lit q.1 q.2 := by
        intro q hq
        have hne : q ≠ p := fun heq => hp (heq ▸ hq)
        rw [drawPixel, Frame.lit_flip, decide_eq_false (by simpa using hne),
          Bool.xor_false]
      have hfirst : (drawPixel d p.1 p.2).collision =
          (d.collision || d.frame.lit p.1 p.2) := rfl
      rw [drawPixels_cons, ih hrest, hfirst, Bool.or_eq_true, or_assoc,
        List.exists_mem_cons_iff]
      refine or_congr_right
        (or_congr_right (exists_congr fun q => and_congr_right fun hq => ?_))
      rw [hkept q hq]

def rowPixels (x : Nat) (y : Row) (b : UInt8) : List (Column × Row) :=
  ((List.range 8).filter (bit b)).map fun k => (column x k, y)

theorem drawRow_eq (d : Drawing) (x : Nat) (y : Row) (b : UInt8) :
    drawRow d x y b = drawPixels d (rowPixels x y b) := by
  rw [drawRow, drawPixels, rowPixels, List.foldl_map, List.foldl_filter]

theorem nodup_rowPixels (x : Nat) (y : Row) (b : UInt8) :
    (rowPixels x y b).Nodup := by
  refine List.Nodup.map_on ?_ (List.nodup_range.filter _)
  intro k hk k' hk' h
  have hlt := List.mem_range.mp (List.mem_filter.mp hk).1
  have hlt' := List.mem_range.mp (List.mem_filter.mp hk').1
  exact column_inj hlt hlt' (Prod.ext_iff.mp h).1

end Sprite

namespace Memory

def byte? (m : Memory) (a : Int) : Option UInt8 :=
  (Address.ofInt? a).map m.byteAt

/-- A row of a sprite outside memory is empty. -/
theorem read_fst (m : Memory) (a : Int) :
    (m.read a).1 = (m.byte? a).getD 0 := by
  unfold read byte?
  cases Address.ofInt? a with
  | none => rfl
  | some c => rfl

end Memory

/-- A sprite as it is drawn: its origin, the number of its rows and the address
of the first one. -/
structure Stamp where
  x : UInt8
  y : UInt8
  rows : Nibble
  index : Int
  deriving DecidableEq

namespace Stamp

variable (s : Stamp) (m : Memory)

/-- Whether a sprite inverts a pixel: one of its bits lies over the pixel,
around the edges, in a row that is inside memory, and is set. -/
def Inks (px : Column) (py : Row) : Prop :=
  ∃ r < s.rows.val, ∃ k < 8,
    (s.x.toNat + k) % 64 = px.val ∧ (s.y.toNat + r) % 32 = py.val ∧
      ∃ b ∈ m.byte? (s.index + r), b &&& (0x80 >>> UInt8.ofNat k) ≠ 0

instance (px : Column) (py : Row) : Decidable (s.Inks m px py) :=
  inferInstanceAs (Decidable (∃ r < _, ∃ k < _, _ ∧ _ ∧ ∃ b ∈ _, _))

/-- At most one bit of a sprite lies over a pixel. -/
theorem bit_unique {r r' k k' : Nat} (hr : r < s.rows.val)
    (hr' : r' < s.rows.val) (hk : k < 8) (hk' : k' < 8)
    (hx : (s.x.toNat + k) % 64 = (s.x.toNat + k') % 64)
    (hy : (s.y.toNat + r) % 32 = (s.y.toNat + r') % 32) : r = r' ∧ k = k' := by
  have := s.rows.isLt
  omega

def rowsOutside : List Nat :=
  (List.range s.rows.val).filter fun r =>
    ¬ (0 ≤ s.index + r ∧ s.index + r ≤ 0xFFF)

def rowPixels (r : Nat) : List (Column × Row) :=
  Sprite.rowPixels s.x.toNat (Sprite.row s.y.toNat r)
    ((m.byte? (s.index + r)).getD 0)

def pixels : List (Column × Row) :=
  (List.range s.rows.val).flatMap (s.rowPixels m)

theorem mem_rowPixels {r : Nat} {px : Column} {py : Row} :
    (px, py) ∈ s.rowPixels m r ↔
      ∃ k < 8, (s.x.toNat + k) % 64 = px.val ∧ (s.y.toNat + r) % 32 = py.val ∧
        ∃ b ∈ m.byte? (s.index + r), b &&& (0x80 >>> UInt8.ofNat k) ≠ 0 := by
  have hbit {k : Nat} (hk : k < 8) :
      Sprite.bit ((m.byte? (s.index + r)).getD 0) k = true ↔
        ∃ b ∈ m.byte? (s.index + r), b &&& (0x80 >>> UInt8.ofNat k) ≠ 0 := by
    rw [Sprite.bit_eq_true_iff _ hk]
    cases m.byte? (s.index + r) with
    | none => simp
    | some b => simp
  simp only [rowPixels, Sprite.rowPixels, List.mem_map, List.mem_filter,
    List.mem_range, Prod.mk.injEq, Sprite.column, Sprite.row, Fin.ext_iff]
  constructor
  · rintro ⟨k, ⟨hk, hb⟩, hx, hy⟩
    exact ⟨k, hk, hx, hy, (hbit hk).mp hb⟩
  · rintro ⟨k, hk, hx, hy, hb⟩
    exact ⟨k, ⟨hk, (hbit hk).mpr hb⟩, hx, hy⟩

theorem mem_pixels {px : Column} {py : Row} :
    (px, py) ∈ s.pixels m ↔ s.Inks m px py := by
  simp only [pixels, List.mem_flatMap, List.mem_range, mem_rowPixels, Inks]

theorem nodup_pixels : (s.pixels m).Nodup := by
  refine List.nodup_flatMap.mpr ⟨fun r _ => Sprite.nodup_rowPixels _ _ _, ?_⟩
  refine List.Pairwise.imp_of_mem ?_ (List.nodup_range (n := s.rows.val))
  intro r r' hr hr' hne p hp hp'
  obtain ⟨k, hk, hx, hy, -⟩ := (s.mem_rowPixels m).mp hp
  obtain ⟨k', hk', hx', hy', -⟩ := (s.mem_rowPixels m).mp hp'
  exact hne (s.bit_unique (List.mem_range.mp hr) (List.mem_range.mp hr') hk hk'
    (hx.trans hx'.symm) (hy.trans hy'.symm)).1

end Stamp

namespace Core

variable {ρ : Type}

/-- What the instruction would draw that takes its origin from `Vx` and
`Vy`. -/
def stamp (c : Core ρ) (x y : Register) (n : Nibble) : Stamp :=
  ⟨c.get x, c.get y, n, c.registers.index⟩

/-- A row is drawn from the byte that the index register leads to at the start:
reading changes no byte. -/
theorem drawRows_snd (c : Core ρ) (x y : UInt8) (n : Nibble)
    (d : Sprite.Drawing) (rows : List Nat) :
    (rows.foldl (drawRow x y) (c, d)).2 =
      Sprite.drawPixels d
        (rows.flatMap
          ((Stamp.mk x y n c.registers.index).rowPixels c.memory)) := by
  induction rows generalizing c d with
  | nil => rfl
  | cons r rest ih =>
      obtain ⟨faults, events, hread⟩ := c.readByte_snd (c.indexed r)
      have hrow : drawRow x y (c, d) r =
          ((c.readByte (c.indexed r)).2,
            Sprite.drawRow d x.toNat (Sprite.row y.toNat r)
            (c.memory.read (c.indexed r)).1) :=
        rfl
      rw [List.foldl_cons, hrow, ih, hread, Sprite.drawRow_eq, Memory.read_fst,
        List.flatMap_cons, Sprite.drawPixels_append]
      rfl

/-- The picture and the flag are those of the pixels of the sprite, drawn one
by one. -/
theorem draw_eq_drawPixels (c : Core ρ) (x y : UInt8) (n : Nibble) :
    let d := Sprite.drawPixels ⟨c.screen.frame, false⟩
      ((Stamp.mk x y n c.registers.index).pixels c.memory)
    (c.draw x y n).screen = ⟨d.frame, true⟩ ∧
      (c.draw x y n).get flagRegister = Arithmetic.flagByte d.collision := by
  intro d
  have hd :
      ((List.range n.val).foldl (drawRow x y) (c, ⟨c.screen.frame, false⟩)).2 =
        d :=
    c.drawRows_snd x y n _ _
  rw [← hd]
  exact ⟨rfl, (Registers.get_set _ _ _ _).trans (if_pos rfl)⟩

/-- What drawing a sprite made of a core. -/
structure Drawn (s : Stamp) (c c' : Core ρ) : Prop where
  pixel (px : Column) (py : Row) :
    c'.screen.frame.lit px py =
      (c.screen.frame.lit px py ^^ decide (s.Inks c.memory px py))
  flag : c'.get flagRegister =
    if ∃ px py, c.screen.frame.lit px py = true ∧ s.Inks c.memory px py then
      1
    else 0
  dirty : c'.screen.dirty = true
  faults : c'.memory.faults =
    (s.rowsOutside.map fun (r : Nat) => Fault.mk .read (s.index + r)).foldl
      FaultLog.record c.memory.faults
  adds : FaultLog.Adds
    (s.rowsOutside.map fun (r : Nat) => Fault.mk .read (s.index + r))
    c.memory.faults c'.memory.faults
  general (y : Register) : y ≠ flagRegister → c'.get y = c.get y
  /-- Everything else stays, the bytes of memory and the index register among
  it. -/
  others : c' =
    { c with
      registers := { c.registers with v := c'.registers.v }
      memory := ⟨c.memory.bytes, c'.memory.faults⟩
      screen := c'.screen
      events := c'.events }

theorem faults_draw_stamp (c : Core ρ) (x y : Register) (n : Nibble) :
    (c.draw (c.get x) (c.get y) n).memory.faults =
      ((c.stamp x y n).rowsOutside.map fun (r : Nat) =>
        Fault.mk .read ((c.stamp x y n).index + r)).foldl FaultLog.record
          c.memory.faults := by
  rw [c.faults_draw (c.get x) (c.get y) x y n, Instruction.accesses,
    List.foldl_map, Stamp.rowsOutside, List.foldl_map, List.foldl_filter]
  congr 1
  funext l r
  rw [FaultLog.note_eq]
  split <;> simp_all [stamp]

theorem drawn_draw (c : Core ρ) (x y : Register) (n : Nibble) :
    Drawn (c.stamp x y n) c (c.draw (c.get x) (c.get y) n) := by
  obtain ⟨hscreen, hflag⟩ := c.draw_eq_drawPixels (c.get x) (c.get y) n
  have hnodup := (c.stamp x y n).nodup_pixels c.memory
  have hfaults := c.faults_draw_stamp x y n
  constructor
  case pixel =>
    intro px py
    rw [hscreen]
    refine (Sprite.lit_drawPixels hnodup _ px py).trans (congrArg (_ ^^ ·) ?_)
    rw [Bool.eq_iff_iff, List.contains_iff_mem, decide_eq_true_iff]
    exact (c.stamp x y n).mem_pixels c.memory
  case flag =>
    have hcollision :=
      Sprite.collision_drawPixels hnodup ⟨c.screen.frame, false⟩
    simp only [Bool.false_eq_true, false_or, Prod.exists, Stamp.mem_pixels]
      at hcollision
    rw [hflag, Arithmetic.flagByte]
    refine if_congr (hcollision.trans ?_) rfl rfl
    simp only [and_comm]
  case dirty => rw [hscreen]
  case faults => exact hfaults
  case adds =>
    rw [hfaults]
    exact FaultLog.adds_foldl_record _ _
  case general => exact fun r hr => c.get_draw_of_ne _ _ n hr
  case others =>
    obtain ⟨frame, v, faults, events, hdraw⟩ := c.draw_eq (c.get x) (c.get y) n
    rw [hdraw]

/-- A sprite is drawn by exclusive or, whatever its registers are and wherever
it lies on the screen and in memory; no two of its bits lie over one pixel. -/
theorem draw_xor [RandomSource ρ] (c : Core ρ) (shiftUsesVy : Bool)
    (x y : Register) (n : Nibble) :
    (∃ c', c.execute shiftUsesVy (.draw x y n) = .done c' ∧
      Drawn (c.stamp x y n) c c') ∧
      ∀ r < n.val, ∀ r' < n.val, ∀ k < 8, ∀ k' < 8,
        ((c.get x).toNat + k) % 64 = ((c.get x).toNat + k') % 64 →
          ((c.get y).toNat + r) % 32 = ((c.get y).toNat + r') % 32 →
            r = r' ∧ k = k' :=
  ⟨⟨_, rfl, c.drawn_draw x y n⟩, fun _ hr _ hr' _ hk _ hk' =>
    (c.stamp x y n).bit_unique hr hr' hk hk'⟩

end Core

end Chip8
