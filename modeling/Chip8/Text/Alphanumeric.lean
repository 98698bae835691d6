import Chip8.Text.DecimalDigit
import Chip8.Text.Identifier

/-!
# Letters and numerals

The letters and the numerals of all scripts, in Unicode 14. Nearly all letters
can begin a name. The table lists the numerals that are no decimal digits, such
as fractions and circled numbers, and the letters that begin no name.
-/

namespace Chip8.Text

/-- The letters and numerals that neither begin a name nor are decimal digits,
as ranges of code points. -/
def numeralRanges : List (Nat × Nat) := [
    (0xB2, 0xB3), (0xB9, 0xB9), (0xBC, 0xBE), (0x37A, 0x37A), (0x9F4, 0x9F9),
    (0xB72, 0xB77), (0xBF0, 0xBF2), (0xC78, 0xC7E), (0xD58, 0xD5E),
    (0xD70, 0xD78), (0xE33, 0xE33), (0xEB3, 0xEB3), (0xF2A, 0xF33),
    (0x1369, 0x137C), (0x17F0, 0x17F9), (0x19DA, 0x19DA), (0x2070, 0x2070),
    (0x2074, 0x2079), (0x2080, 0x2089), (0x2150, 0x215F), (0x2189, 0x2189),
    (0x2460, 0x249B), (0x24EA, 0x24FF), (0x2776, 0x2793), (0x2CFD, 0x2CFD),
    (0x2E2F, 0x2E2F), (0x3192, 0x3195), (0x3220, 0x3229), (0x3248, 0x324F),
    (0x3251, 0x325F), (0x3280, 0x3289), (0x32B1, 0x32BF), (0xA830, 0xA835),
    (0xFC5E, 0xFC63), (0xFDFA, 0xFDFB), (0xFE70, 0xFE70), (0xFE72, 0xFE72),
    (0xFE74, 0xFE74), (0xFE76, 0xFE76), (0xFE78, 0xFE78), (0xFE7A, 0xFE7A),
    (0xFE7C, 0xFE7C), (0xFE7E, 0xFE7E), (0xFF9E, 0xFF9F), (0x10107, 0x10133),
    (0x10175, 0x10178), (0x1018A, 0x1018B), (0x102E1, 0x102FB),
    (0x10320, 0x10323), (0x10858, 0x1085F), (0x10879, 0x1087F),
    (0x108A7, 0x108AF), (0x108FB, 0x108FF), (0x10916, 0x1091B),
    (0x109BC, 0x109BD), (0x109C0, 0x109CF), (0x109D2, 0x109FF),
    (0x10A40, 0x10A48), (0x10A7D, 0x10A7E), (0x10A9D, 0x10A9F),
    (0x10AEB, 0x10AEF), (0x10B58, 0x10B5F), (0x10B78, 0x10B7F),
    (0x10BA9, 0x10BAF), (0x10CFA, 0x10CFF), (0x10E60, 0x10E7E),
    (0x10F1D, 0x10F26), (0x10F51, 0x10F54), (0x10FC5, 0x10FCB),
    (0x11052, 0x11065), (0x111E1, 0x111F4), (0x1173A, 0x1173B),
    (0x118EA, 0x118F2), (0x11C5A, 0x11C6C), (0x11FC0, 0x11FD4),
    (0x16B5B, 0x16B61), (0x16E80, 0x16E96), (0x1D2E0, 0x1D2F3),
    (0x1D360, 0x1D378), (0x1E8C7, 0x1E8CF), (0x1EC71, 0x1ECAB),
    (0x1ECAD, 0x1ECAF), (0x1ECB1, 0x1ECB4), (0x1ED01, 0x1ED2D),
    (0x1ED2F, 0x1ED3D), (0x1F100, 0x1F10C)]

/-- The characters that a name may begin with although they are no letters. -/
def letterlikeSigns : List Char :=
  ['_', '\u1885', '\u1886', '\u2118', '\u212e']

def isAlphanumeric (c : Char) : Bool :=
  (startsIdentifier c && !letterlikeSigns.contains c) || isDecimal c ||
    inRanges numeralRanges c

end Chip8.Text
