import Chip8.Text.DecimalDigit
import Chip8.Text.LowerCase
import Chip8.Text.Blank
import Chip8.Text.Style.ColourName

/-!
# Styles

A style is written in words: attributes, each under its name or a letter and
perhaps with `not` before it, a colour, `on` with the colour behind it, and
`link` with a target. The last word of a kind counts. The same style can be
written in many ways; `Style.canonical` writes it in one, and leaves what is no
style as it is, but for blanks at its ends and capitals.

A colour is a name, `default`, `#` with six hexadecimal digits, `color` with a
number, or `rgb` with three numbers. Numbers end at 255. Three numbers of which
one is missing are more than no style: they stop whatever is being read.
-/

namespace Chip8.Text

inductive Attribute where
  | bold | dim | italic | underline | blink | blink2 | reverse | conceal
  | strike | underline2 | frame | encircle | overline
  deriving DecidableEq, Repr

namespace Attribute

def all : List Attribute :=
  [bold, dim, italic, underline, blink, blink2, reverse, conceal, strike,
    underline2, frame, encircle, overline]

def name : Attribute → String
  | bold => "bold"
  | dim => "dim"
  | italic => "italic"
  | underline => "underline"
  | blink => "blink"
  | blink2 => "blink2"
  | reverse => "reverse"
  | conceal => "conceal"
  | strike => "strike"
  | underline2 => "underline2"
  | frame => "frame"
  | encircle => "encircle"
  | overline => "overline"

def letter? : Attribute → Option String
  | bold => some "b"
  | dim => some "d"
  | italic => some "i"
  | underline => some "u"
  | reverse => some "r"
  | conceal => some "c"
  | strike => some "s"
  | underline2 => some "uu"
  | overline => some "o"
  | _ => none

def ofWord? (word : String) : Option Attribute :=
  all.find? fun a => a.name = word || a.letter? = some word

theorem mem_all (a : Attribute) : a ∈ all := by cases a <;> decide

end Attribute

inductive StyleError where
  | noStyle
  | missingNumber
  | longNumber (digits : Nat)
  deriving DecidableEq, Repr

def StyleError.message : StyleError → String
  | noStyle => "unable to parse style"
  | missingNumber => "invalid literal for int() with base 10: ''"
  | longNumber digits =>
    "Exceeds the limit (4300 digits) for integer string conversion: " ++
      "value has " ++ toString digits ++
      " digits; use sys.set_int_max_str_digits() to increase the limit"

structure Style where
  /-- What was said of attributes, the last first. -/
  attributes : List (Attribute × Bool) := []
  colour? : Option String := none
  background? : Option String := none
  link? : Option String := none
  deriving DecidableEq, Repr

namespace Style

def maxDigits : Nat := 4300

def maxNumber : Nat := 255

def decimalNumber (digits : List Char) : Nat :=
  digits.foldl (fun n c => 10 * n + (decimalValue? c).getD 0) 0

def readNumber (digits : List Char) : Except StyleError Nat :=
  if digits.isEmpty then .error .missingNumber
  else if maxDigits < digits.length then .error (.longNumber digits.length)
  else .ok (decimalNumber digits)

def splitCommas : List Char → List (List Char)
  | [] => [[]]
  | ',' :: rest => [] :: splitCommas rest
  | c :: rest =>
    match splitCommas rest with
    | first :: others => (c :: first) :: others
    | [] => [[c]]

def argument? (word : String) (cs : List Char) : Option (List Char) :=
  let start := (word ++ "(").toList
  if start.isPrefixOf cs && cs.getLast? = some ')' then
    some ((cs.drop start.length).dropLast)
  else none

def isHexDigit (c : Char) : Bool :=
  ('0' ≤ c && c ≤ '9') || ('a' ≤ c && c ≤ 'f')

def isHexColour (cs : List Char) : Bool :=
  cs.length = 7 && cs.head? = some '#' && (cs.drop 1).all isHexDigit

def isColourNumber (cs : List Char) : Bool :=
  match argument? "color" cs with
  | some digits =>
    1 ≤ digits.length && digits.length ≤ 3 && digits.all Char.isDigit &&
      decimalNumber digits ≤ maxNumber
  | none => false

def isNumbers (cs : List Char) : Bool :=
  match argument? "rgb" cs with
  | some inner => !inner.isEmpty && inner.all fun c => c = ',' || isDecimal c
  | none => false

def checkNumbers (cs : List Char) : Except StyleError Unit :=
  match splitCommas ((argument? "rgb" cs).getD []) with
  | [r, g, b] => do
    let numbers ← [r, g, b].mapM readNumber
    if numbers.all (· ≤ maxNumber) then return () else throw .noStyle
  | _ => .error .noStyle

def readColour (word : String) : Except StyleError String :=
  let colour := lower word
  let cs := colour.toList
  if colour = "default" || colourNames.contains colour || isHexColour cs ||
      isColourNumber cs then .ok colour
  else if isNumbers cs then (checkNumbers cs).map fun _ => colour
  else .error .noStyle

def readWords (s : Style) : List String → Except StyleError Style
  | [] => .ok s
  | word :: rest =>
    match lower word, rest with
    | "on", colour :: rest => do
      readWords { s with background? := some (← readColour colour) } rest
    | "not", name :: rest =>
      match Attribute.ofWord? name with
      | some a =>
        readWords { s with attributes := (a, false) :: s.attributes } rest
      | none => .error .noStyle
    | "link", target :: rest => readWords { s with link? := some target } rest
    | "on", [] | "not", [] | "link", [] => .error .noStyle
    | word, rest =>
      match Attribute.ofWord? word with
      | some a =>
        readWords { s with attributes := (a, true) :: s.attributes } rest
      | none => do
        readWords { s with colour? := some (← readColour word) } rest

def wordsFrom (word : List Char) : List Char → List (List Char)
  | [] => if word.isEmpty then [] else [word.reverse]
  | c :: rest =>
    if !isBlank c then wordsFrom (c :: word) rest
    else if word.isEmpty then wordsFrom [] rest
    else word.reverse :: wordsFrom [] rest

def ofText (definition : List Char) : Except StyleError Style :=
  match (wordsFrom [] definition).map String.ofList with
  | ["none"] => .ok {}
  | words => readWords {} words

def attributeText (s : Style) (a : Attribute) : Option String :=
  (s.attributes.lookup a).map fun on => if on then a.name else "not " ++ a.name

def text (s : Style) : String :=
  let words := Attribute.all.filterMap s.attributeText ++ s.colour?.toList ++
    (s.background?.map ("on " ++ ·)).toList ++
    (s.link?.map ("link " ++ ·)).toList
  if words.isEmpty then "none" else " ".intercalate words

def canonical (definition : List Char) : Except StyleError String :=
  match ofText definition with
  | .ok s => .ok s.text
  | .error .noStyle => .ok (lower (String.ofList (strip definition)))
  | .error e => .error e

def check (definition : List Char) : Except StyleError Unit :=
  (canonical definition).map fun _ => ()

end Style

end Chip8.Text
