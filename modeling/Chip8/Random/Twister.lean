import Chip8.Random

/-!
# The Mersenne twister

A generator of 32-bit numbers with a state of 624 words. It is seeded with an
integer, of which the sign is ignored, through its 32-bit digits, lowest first.
Bytes are drawn by taking the top nine bits of a number until they make less
than 256; one draw needs two numbers on average.
-/

namespace Chip8

structure Twister where
  words : Vector UInt32 624
  used : Nat

namespace Twister

/-- The place of a word, around the end. -/
def place (i : Nat) : Fin 624 :=
  ⟨i % 624, by omega⟩

/-- The word at `i` when a seeding starts, made from the one before it. -/
def startWord (before : UInt32) (i : Nat) : UInt32 :=
  (1812433253 : UInt32) * (before ^^^ (before >>> 30)) + UInt32.ofNat i

def startWords : Vector UInt32 624 :=
  (List.range 623).foldl
    (fun (words : Vector UInt32 624) i =>
      words.set (place (i + 1)) (startWord words[place i] (i + 1)))
    (Vector.replicate 624 19650218)

/-- The 32-bit digits of a number, lowest first; zero has one. -/
def digits (n : Nat) : List UInt32 :=
  if n < 0x100000000 then [UInt32.ofNat n]
  else UInt32.ofNat n :: digits (n / 0x100000000)

/-- A step of mixing: the word at `i` takes in the one before it. -/
def mixWord (words : Vector UInt32 624) (i : Nat) (factor : UInt32) : UInt32 :=
  let before := words[place (i - 1)]
  words[place i] ^^^ ((before ^^^ (before >>> 30)) * factor)

structure Mixing where
  words : Vector UInt32 624
  next : Nat

/-- Puts a mixed word in place and moves on; place 0 repeats the last one and
is passed over. -/
def Mixing.put (m : Mixing) (w : UInt32) : Mixing :=
  let words := m.words.set (place m.next) w
  if m.next + 1 < 624 then ⟨words, m.next + 1⟩
  else ⟨words.set (0 : Fin 624) words[place 623], 1⟩

def Mixing.addDigit (key : Array UInt32) (m : Mixing) (j : Nat) : Mixing :=
  let j := j % key.size
  m.put (mixWord m.words m.next 1664525 + key.getD j 0 + UInt32.ofNat j)

def Mixing.subPlace (m : Mixing) : Mixing :=
  m.put (mixWord m.words m.next 1566083941 - UInt32.ofNat m.next)

def ofSeed (seed : Int) : Twister :=
  let key := (digits seed.natAbs).toArray
  let m :=
    (List.range (max 624 key.size)).foldl (Mixing.addDigit key) ⟨startWords, 1⟩
  let m := (List.range 623).foldl (fun m _ => m.subPlace) m
  ⟨m.words.set (0 : Fin 624) 0x80000000, 624⟩

def nextWord (words : Vector UInt32 624) (i : Nat) : UInt32 :=
  let y := (words[place i] &&& 0x80000000) |||
    (words[place (i + 1)] &&& 0x7FFFFFFF)
  words[place (i + 397)] ^^^ (y >>> 1) ^^^
    (if y &&& 1 = 0 then 0 else 0x9908B0DF)

def nextGeneration (words : Vector UInt32 624) : Vector UInt32 624 :=
  (List.range 624).foldl
    (fun words i => words.set (place i) (nextWord words i)) words

def temper (y : UInt32) : UInt32 :=
  let y := y ^^^ (y >>> 11)
  let y := y ^^^ ((y <<< 7) &&& 0x9D2C5680)
  let y := y ^^^ ((y <<< 15) &&& 0xEFC60000)
  y ^^^ (y >>> 18)

def next (t : Twister) : UInt32 × Twister :=
  let t := if t.used < 624 then t else ⟨nextGeneration t.words, 0⟩
  (temper t.words[place t.used], { t with used := t.used + 1 })

/-- The next byte in at most so many tries; the last resort is zero. -/
def byteWithin : Nat → Twister → UInt8 × Twister
  | 0, t => (0, t)
  | tries + 1, t =>
    let (y, t) := t.next
    let n := (y >>> 23).toNat
    if n < 256 then (UInt8.ofNat n, t) else byteWithin tries t

/-- The next byte. More than a whole generation of numbers is tried. -/
def byte (t : Twister) : UInt8 × Twister :=
  byteWithin 1000 t

end Twister

instance : RandomSource Twister where
  draw := Twister.byte

inductive Dice where
  | cycled (s : CycledBytes)
  | seeded (t : Twister)

namespace Dice

def draw : Dice → UInt8 × Dice
  | cycled s => let (b, s) := s.draw; (b, cycled s)
  | seeded t => let (b, t) := t.byte; (b, seeded t)

def ofBytes (bytes : List UInt8) : Dice :=
  cycled { all := bytes }

def ofSeed (seed : Int) : Dice :=
  seeded (Twister.ofSeed seed)

end Dice

instance : RandomSource Dice where
  draw := Dice.draw

end Chip8
