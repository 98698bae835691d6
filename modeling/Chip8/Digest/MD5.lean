import Chip8.Text.Numeral

/-!
# MD5

The MD5 digest: a message is padded to blocks of 64 bytes, and each
block is mixed into a state of four words in 64 steps. Words are stored with
their lowest byte first.
-/

namespace Chip8.MD5

structure State where
  a : UInt32
  b : UInt32
  c : UInt32
  d : UInt32

def initial : State :=
  ⟨0x67452301, 0xEFCDAB89, 0x98BADCFE, 0x10325476⟩

def sines : Array UInt32 := #[
  0xD76AA478, 0xE8C7B756, 0x242070DB, 0xC1BDCEEE, 0xF57C0FAF, 0x4787C62A,
  0xA8304613, 0xFD469501, 0x698098D8, 0x8B44F7AF, 0xFFFF5BB1, 0x895CD7BE,
  0x6B901122, 0xFD987193, 0xA679438E, 0x49B40821, 0xF61E2562, 0xC040B340,
  0x265E5A51, 0xE9B6C7AA, 0xD62F105D, 0x02441453, 0xD8A1E681, 0xE7D3FBC8,
  0x21E1CDE6, 0xC33707D6, 0xF4D50D87, 0x455A14ED, 0xA9E3E905, 0xFCEFA3F8,
  0x676F02D9, 0x8D2A4C8A, 0xFFFA3942, 0x8771F681, 0x6D9D6122, 0xFDE5380C,
  0xA4BEEA44, 0x4BDECFA9, 0xF6BB4B60, 0xBEBFBC70, 0x289B7EC6, 0xEAA127FA,
  0xD4EF3085, 0x04881D05, 0xD9D4D039, 0xE6DB99E5, 0x1FA27CF8, 0xC4AC5665,
  0xF4292244, 0x432AFF97, 0xAB9423A7, 0xFC93A039, 0x655B59C3, 0x8F0CCC92,
  0xFFEFF47D, 0x85845DD1, 0x6FA87E4F, 0xFE2CE6E0, 0xA3014314, 0x4E0811A1,
  0xF7537E82, 0xBD3AF235, 0x2AD7D2BB, 0xEB86D391]

/-- The rotations of the steps, repeated four times in each round. -/
def rotations : Array UInt32 := #[
  7, 12, 17, 22, 5, 9, 14, 20, 4, 11, 16, 23, 6, 10, 15, 21]

def rotateLeft (x s : UInt32) : UInt32 :=
  (x <<< s) ||| (x >>> (32 - s))

def combine (round : Nat) (b c d : UInt32) : UInt32 :=
  match round with
  | 0 => (b &&& c) ||| (~~~b &&& d)
  | 1 => (d &&& b) ||| (~~~d &&& c)
  | 2 => b ^^^ c ^^^ d
  | _ => c ^^^ (b ||| ~~~d)

def wordIndex (i : Nat) : Nat :=
  match i / 16 with
  | 0 => i % 16
  | 1 => (5 * i + 1) % 16
  | 2 => (3 * i + 5) % 16
  | _ => 7 * i % 16

def step (block : Array UInt32) (s : State) (i : Nat) : State :=
  let sum := s.a + combine (i / 16) s.b s.c s.d + sines.getD i 0 +
    block.getD (wordIndex i) 0
  let s' := rotations.getD (4 * (i / 16) + i % 4) 0
  ⟨s.d, s.b + rotateLeft sum s', s.b, s.c⟩

def mix (s : State) (block : Array UInt32) : State :=
  let t := (List.range 64).foldl (step block) s
  ⟨s.a + t.a, s.b + t.b, s.c + t.c, s.d + t.d⟩

def littleEndian : Nat → Nat → List UInt8
  | 0, _ => []
  | n + 1, x => UInt8.ofNat (x % 256) :: littleEndian n (x / 256)

/-- The bytes that make a message of the given length a whole number of
blocks: a one bit, zeros, and the length in bits. -/
def padding (length : Nat) : List UInt8 :=
  0x80 :: List.replicate ((119 - length % 64) % 64) 0 ++
    littleEndian 8 (8 * length)

/-- Bytes as words; an incomplete last word is left out. -/
def words : List UInt8 → List UInt32
  | b0 :: b1 :: b2 :: b3 :: rest =>
    UInt32.ofNat
      (b0.toNat + 256 * (b1.toNat + 256 * (b2.toNat + 256 * b3.toNat))) ::
      words rest
  | _ => []

def mixAll (s : State) (ws : List UInt32) : State :=
  if ws.length < 16 then s
  else mixAll (mix s (ws.take 16).toArray) (ws.drop 16)
termination_by ws.length
decreasing_by simp; omega

def digest (message : List UInt8) : List UInt8 :=
  let s := mixAll initial (words (message ++ padding message.length))
  [s.a, s.b, s.c, s.d].flatMap fun w => littleEndian 4 w.toNat

def hexDigest (message : List UInt8) : String :=
  String.ofList
    ((digest message).flatMap fun b =>
      (Text.fixedHex 2 b.toNat).map Char.toLower)

end Chip8.MD5
