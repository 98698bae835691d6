import Chip8.Text.CharacterName.AToB
import Chip8.Text.CharacterName.CToD
import Chip8.Text.CharacterName.EToH
import Chip8.Text.CharacterName.IToL
import Chip8.Text.CharacterName.MToO
import Chip8.Text.CharacterName.PToS
import Chip8.Text.CharacterName.TToZ
import Chip8.Text.HexBytes

/-!
# Names of characters

The names that characters have in Unicode 14, and the other names that some
have besides. Two kinds of names follow a rule: those of Hangul syllables are
spelled from their parts, and those of unified ideographs end with their code
points. All others are listed.

In the lists the names are in order, and each is written as its difference from
the one in front of it: small letters tell how many characters are taken off
the end of that, `a` for none and `z` for twenty-five, and what follows them is
put there.
-/

namespace Chip8.Text

namespace CharacterName

def lists : List (List String) :=
  [namesAToB, namesCToD, namesEToH, namesIToL, namesMToO, namesPToS, namesTToZ]

/-- Whether a name, given backwards, is in a list. The name that has been put
together so far is complete where small letters begin. -/
def isListed (name : List Char) (complete : Bool) (read : List Char) :
    List Char → Bool
  | [] => read == name
  | c :: rest =>
    if c.isLower then
      (complete && read == name) ||
        isListed name false (read.drop (c.toNat - 'a'.toNat)) rest
    else isListed name true (c :: read) rest

def leads : List String :=
  ["G", "GG", "N", "D", "DD", "R", "M", "B", "BB", "S", "SS", "", "J", "JJ",
    "C", "K", "T", "P", "H"]

def vowels : List String :=
  ["A", "AE", "YA", "YAE", "EO", "E", "YEO", "YE", "O", "WA", "WAE", "OE",
    "YO", "U", "WEO", "WE", "WI", "YU", "EU", "YI", "I"]

def trails : List String :=
  ["", "G", "GG", "GS", "N", "NJ", "NH", "D", "L", "LG", "LM", "LB", "LS",
    "LT", "LP", "LH", "M", "B", "BS", "S", "SS", "NG", "J", "C", "K", "T",
    "P", "H"]

def afterLongest? (parts : List String) (cs : List Char) :
    Option (List Char) :=
  let lengths :=
    (parts.filter fun p => p.toList.isPrefixOf cs).map String.length
  lengths.max?.map cs.drop

def isSyllable (cs : List Char) : Bool :=
  [leads, vowels, trails].foldlM
    (fun rest parts => afterLongest? parts rest) cs == some []

def ideographRanges : List (Nat × Nat) :=
  [(0x3400, 0x4DBF), (0x4E00, 0x9FFF), (0x20000, 0x2A6DF), (0x2A700, 0x2B738),
    (0x2B740, 0x2B81D), (0x2B820, 0x2CEA1), (0x2CEB0, 0x2EBE0),
    (0x30000, 0x3134A)]

/-- Whether a text is the code point of a unified ideograph, in four or five
digits. -/
def isIdeographCode (cs : List Char) : Bool :=
  (cs.length = 4 || cs.length = 5) &&
    cs.all (fun c => (hexValue? c).isSome && !c.isLower) &&
    let code := cs.foldl (fun n c => 16 * n + (hexValue? c).getD 0) 0
    ideographRanges.any fun (first, last) => first ≤ code && code ≤ last

end CharacterName

open CharacterName in
/-- Whether a text is the name of a character. In listed names small letters
count as capital ones. -/
def isCharacterName (cs : List Char) : Bool :=
  let syllable := "HANGUL SYLLABLE ".toList
  let ideograph := "CJK UNIFIED IDEOGRAPH-".toList
  if syllable.isPrefixOf cs then isSyllable (cs.drop syllable.length)
  else if ideograph.isPrefixOf cs then
    isIdeographCode (cs.drop ideograph.length)
  else
    let name := (cs.map Char.toUpper).reverse
    lists.any fun list => isListed name false [] (list.flatMap String.toList)

end Chip8.Text
