import Chip8.Numeric.Double
import Chip8.Text.HexBytes
import Chip8.Text.Literal.Error

/-!
# Numbers

Numbers as they are written in literals: whole ones in four ways, with
fractions and exponents, and imaginary ones. Single underscores may stand
between digits. `numberAt` cuts a number off a text; no word may begin right
behind it, with a few exceptions.
-/

namespace Chip8.Text

namespace NumberKind

def base : NumberKind → Nat
  | binary => 2
  | octal => 8
  | decimal | imaginary => 10
  | hexadecimal => 16

def isDigit : NumberKind → Char → Bool
  | binary, c => c = '0' || c = '1'
  | octal, c => '0' ≤ c && c ≤ '7'
  | hexadecimal, c => (hexValue? c).isSome
  | decimal, c | imaginary, c => c.isDigit

def ofLetter? (c : Char) : Option NumberKind :=
  if c = 'b' || c = 'B' then some binary
  else if c = 'o' || c = 'O' then some octal
  else if c = 'x' || c = 'X' then some hexadecimal
  else none

end NumberKind

namespace Literal

inductive Number where
  | whole (kind : NumberKind) (digits : List Char)
  | real
  | imaginary
  deriving DecidableEq, Repr

namespace Number

def valueUpTo (bound : Nat) (kind : NumberKind) (digits : List Char) : Nat :=
  digits.foldl
    (fun n c =>
      if bound ≤ n then bound else n * kind.base + (hexValue? c).getD 0) 0

def isHuge : Number → Bool
  | whole kind digits =>
    Numeric.tooLarge ≤ valueUpTo Numeric.tooLarge kind digits
  | real | imaginary => false

/-- The number of digits of a decimal number, if they are too many. Zeros alone
are never too many. -/
def excess? : Number → Option Nat
  | whole .decimal digits =>
    if digits.head? ≠ some '0' && digitLimit < digits.length then
      some digits.length
    else none
  | _ => none

end Number

def inWord (c : Char) : Bool :=
  c.isAlphanum || c = '_' || 128 ≤ c.toNat

def mayFollowNumber (cs : List Char) : Bool :=
  ["if", "in", "is"].any (fun w => w.toList.isPrefixOf cs) ||
    ["and", "else", "for", "not", "or"].any fun w =>
      w.toList.isPrefixOf cs && !(cs.drop w.length).head?.any inWord

def endNumber (kind : NumberKind) (cs : List Char) :
    Except TokenError (List Char) :=
  if cs.head?.any inWord && !mayFollowNumber cs then .error (.number kind)
  else .ok cs

def noDigit (kind : NumberKind) (cs : List Char) : TokenError :=
  match cs with
  | c :: _ => if c.isDigit then .digit c kind else .number kind
  | [] => .number kind

/-- The digits at the beginning of a text, with those read before them
backwards, and what follows. An underscore has to stand before a digit. -/
def takeDigits (kind : NumberKind) (read : List Char) :
    List Char → Except TokenError (List Char × List Char)
  | '_' :: c :: rest =>
    if kind.isDigit c then takeDigits kind (c :: read) rest
    else .error (noDigit kind (c :: rest))
  | c :: rest =>
    if kind.isDigit c then takeDigits kind (c :: read) rest
    else if c = '_' then .error (.number kind)
    else .ok (read.reverse, c :: rest)
  | [] => .ok (read.reverse, [])

def announced (kind : NumberKind) (cs : List Char) :
    Except TokenError (Number × List Char) := do
  if !cs.head?.any fun c => kind.isDigit c || c = '_' then
    throw (noDigit kind cs)
  let (digits, rest) ← takeDigits kind [] cs
  if rest.head?.any Char.isDigit then throw (noDigit kind rest)
  return (.whole kind digits, ← endNumber kind rest)

def afterDigits (cs : List Char) : Except TokenError (List Char) :=
  (takeDigits .decimal [] cs).map (·.2)

def afterFraction (cs : List Char) : Except TokenError (List Char) :=
  if cs.head?.any Char.isDigit then afterDigits cs else .ok cs

def afterExponent? (cs : List Char) : Except TokenError (Option (List Char)) :=
  match cs with
  | s :: rest =>
    if s.isDigit then (afterDigits cs).map some
    else if s = '+' || s = '-' then
      if rest.head?.any Char.isDigit then (afterDigits rest).map some
      else .error (.number .decimal)
    else .ok none
  | [] => .ok none

def endDecimal (n : Number) (cs : List Char) :
    Except TokenError (Number × List Char) :=
  match cs with
  | 'j' :: rest | 'J' :: rest =>
    (endNumber .imaginary rest).map (.imaginary, ·)
  | _ => (endNumber .decimal cs).map (n, ·)

def withExponent (n : Number) (cs : List Char) :
    Except TokenError (Number × List Char) := do
  match cs with
  | 'e' :: rest | 'E' :: rest =>
    match ← afterExponent? rest with
    | some rest => endDecimal .real rest
    | none => return (n, ← endNumber .decimal cs)
  | _ => endDecimal n cs

def hasLeadingZero (digits : List Char) : Bool :=
  digits.head? = some '0' && digits.any (· ≠ '0')

def decimal (cs : List Char) : Except TokenError (Number × List Char) := do
  let (digits, rest) ← takeDigits .decimal [] cs
  let strange := hasLeadingZero digits
  let whole := if strange then .real else .whole .decimal digits
  match rest with
  | '.' :: rest => withExponent .real (← afterFraction rest)
  | c :: _ =>
    if strange && !(['e', 'E', 'j', 'J'].contains c) then throw .leadingZeros
    else withExponent whole rest
  | [] => if strange then throw .leadingZeros else return (whole, [])

def beginsNumber : List Char → Bool
  | '.' :: c :: _ => c.isDigit
  | c :: _ => c.isDigit
  | [] => false

def numberAt (cs : List Char) : Except TokenError (Number × List Char) :=
  match cs with
  | '.' :: rest => afterFraction rest >>= withExponent .real
  | '0' :: c :: rest =>
    match NumberKind.ofLetter? c with
    | some kind => announced kind rest
    | none => decimal cs
  | _ => decimal cs

end Literal

end Chip8.Text
