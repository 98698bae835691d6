/-!
# Instruction words

An instruction is one sixteen-bit word, stored with its high byte first. A word
is read through fixed fields: the family (top nibble), the register operands
`x` and `y` (second and third nibble), the last nibble `n`, the low byte `kk`
and the low twelve bits `nnn`. Every field has the type of what it names, so
that no operand is ever out of range.
-/

namespace Chip8

abbrev Register := Fin 16

abbrev Nibble := Fin 16

/-- A twelve-bit operand, the place of a byte in the address space. -/
abbrev Address := Fin 4096

abbrev Word := UInt16

def Address.ofInt? (z : Int) : Option Address :=
  if h : 0 ≤ z ∧ z < 4096 then some ⟨z.toNat, by omega⟩ else none

theorem Address.ofInt?_eq_none_iff (z : Int) :
    ofInt? z = none ↔ z < 0 ∨ 4096 ≤ z := by
  unfold ofInt?
  split
  next h => simp; omega
  next h => simp; omega

theorem Address.ofInt?_val (a : Address) : ofInt? (a.val : Int) = some a := by
  unfold ofInt?
  rw [dif_pos (by omega)]
  simp

theorem Address.ofInt?_eq_some_iff {z : Int} {a : Address} :
    ofInt? z = some a ↔ z = a.val := by
  constructor
  · intro h
    unfold ofInt? at h
    split at h
    · next hz =>
        obtain rfl := Option.some.inj h
        exact (Int.toNat_of_nonneg hz.1).symm
    · cases h
  · rintro rfl
    exact ofInt?_val a

namespace Word

theorem toNat_lt (w : Word) : w.toNat < 65536 :=
  UInt16.toNat_lt w

def ofBytes (hi lo : UInt8) : Word :=
  UInt16.ofNat (256 * hi.toNat + lo.toNat)

def ofInt (z : Int) : Word :=
  UInt16.ofNat (z % 65536).toNat

/-- The byte that is stored first. -/
def high (w : Word) : UInt8 :=
  UInt8.ofNat (w.toNat / 256)

def low (w : Word) : UInt8 :=
  UInt8.ofNat (w.toNat % 256)

theorem toNat_low (w : Word) : w.low.toNat = w.toNat % 256 := by
  simp [low]

/-- The top nibble, which selects the instruction family. -/
def family (w : Word) : Nibble :=
  ⟨w.toNat / 4096, by have := toNat_lt w; omega⟩

def x (w : Word) : Register :=
  ⟨w.toNat / 256 % 16, by omega⟩

def y (w : Word) : Register :=
  ⟨w.toNat / 16 % 16, by omega⟩

def n (w : Word) : Nibble :=
  ⟨w.toNat % 16, by omega⟩

def kk (w : Word) : UInt8 :=
  w.low

def nnn (w : Word) : Address :=
  ⟨w.toNat % 4096, by omega⟩

end Word

end Chip8
