import Chip8.Text.Quoted

/-!
# Faults of literals

What keeps a text from being a literal. Its form may be wrong (`FormError`): a
token breaks off (`TokenError`), a quotation says what it cannot say
(`QuotationError`), or the tokens stand where they make no expression; some
such mistakes are common enough to be called by name (`Mistake`). A text of the
right form may still have no value (`ValueError`).
-/

namespace Chip8.Text

inductive Bracket where
  | round
  | square
  | curly
  deriving DecidableEq, Repr

namespace Bracket

def opening : Bracket → Char
  | round => '('
  | square => '['
  | curly => '{'

def closing : Bracket → Char
  | round => ')'
  | square => ']'
  | curly => '}'

def all : List Bracket :=
  [round, square, curly]

def opens? (c : Char) : Option Bracket :=
  all.find? (·.opening = c)

def closes? (c : Char) : Option Bracket :=
  all.find? (·.closing = c)

end Bracket

inductive NumberKind where
  | binary
  | octal
  | decimal
  | hexadecimal
  | imaginary
  deriving DecidableEq, Repr

def NumberKind.name : NumberKind → String
  | binary => "binary"
  | octal => "octal"
  | decimal => "decimal"
  | hexadecimal => "hexadecimal"
  | imaginary => "imaginary"

def apostrophed (c : Char) : String :=
  "'" ++ c.toString ++ "'"

namespace Literal

inductive TokenError where
  /-- A quotation has no end; a long one may go over several lines. -/
  | openQuotation (long : Bool) (line : Nat)
  | strayBackslash
  | cutShort
  | unmatched (b : Bracket)
  /-- A closing bracket is of another kind than the one it would close, which
  may stand on an earlier line. -/
  | mismatched (closing opening : Bracket) (line? : Option Nat)
  | neverClosed (b : Bracket)
  | tooManyBrackets
  | number (kind : NumberKind)
  | digit (c : Char) (kind : NumberKind)
  | leadingZeros
  | character (c : Char)
  | unevenMargin
  | mixedMargin
  | tooManyMargins
  deriving DecidableEq, Repr

def TokenError.message : TokenError → String
  | openQuotation long line =>
    "unterminated " ++ (if long then "triple-quoted " else "") ++
      "string literal (detected at line " ++ toString line ++ ")"
  | strayBackslash => "unexpected character after line continuation character"
  | cutShort => "unexpected EOF while parsing"
  | unmatched b => "unmatched " ++ apostrophed b.closing
  | mismatched closing opening line? =>
    "closing parenthesis " ++ apostrophed closing.closing ++
      " does not match opening parenthesis " ++ apostrophed opening.opening ++
      (line?.map (" on line " ++ toString ·)).getD ""
  | neverClosed b => apostrophed b.opening ++ " was never closed"
  | tooManyBrackets => "too many nested parentheses"
  | number kind => "invalid " ++ kind.name ++ " literal"
  | digit c kind =>
    "invalid digit " ++ apostrophed c ++ " in " ++ kind.name ++ " literal"
  | leadingZeros =>
    "leading zeros in decimal integer literals are not permitted; " ++
      "use an 0o prefix for octal integers"
  | character c =>
    if isPrintable c then
      "invalid character " ++ apostrophed c ++ " (U+" ++ hex 4 c.toNat ++ ")"
    else "invalid non-printable character U+" ++ hex 4 c.toNat
  | unevenMargin => "unindent does not match any outer indentation level"
  | mixedMargin => "inconsistent use of tabs and spaces in indentation"
  | tooManyMargins => "too many levels of indentation"

inductive EscapeFault where
  /-- A code point has fewer digits than the letter that announces it asks
  for. -/
  | truncated (letter : Char) (digits : Nat)
  | beyond
  | malformedName
  | unknownName
  deriving DecidableEq, Repr

def EscapeFault.message : EscapeFault → String
  | truncated letter digits =>
    "truncated \\" ++ letter.toString ++
      String.ofList (List.replicate digits 'X') ++ " escape"
  | beyond => "illegal Unicode character"
  | malformedName => "malformed \\N character escape"
  | unknownName => "unknown Unicode character name"

/-- Why quotations make no text. Those that concern the places to be filled in
of a formatted quotation come last. -/
inductive QuotationError where
  | escape (fault : EscapeFault) (first last : Nat)
  | byteEscape (position : Nat)
  | beyondASCII
  | mixed
  | loneBrace
  | tooDeep
  | backslash
  | remark
  | openQuotation
  | unmatched (c : Char)
  | mismatched (closing opening : Char)
  | tooManyBrackets
  | noExpression (before? : Option Char)
  | conversion
  | notClosed
  deriving DecidableEq, Repr

def formattedPrefix : String :=
  "f-string: "

def QuotationError.message : QuotationError → String
  | escape fault first last =>
    "(unicode error) 'unicodeescape' codec can't decode bytes in position " ++
      toString first ++ "-" ++ toString last ++ ": " ++ fault.message
  | byteEscape position =>
    "(value error) invalid \\x escape at position " ++ toString position
  | beyondASCII => "bytes can only contain ASCII literal characters"
  | mixed => "cannot mix bytes and nonbytes literals"
  | loneBrace => formattedPrefix ++ "single '\x7d' is not allowed"
  | tooDeep => formattedPrefix ++ "expressions nested too deeply"
  | backslash => "f-string expression part cannot include a backslash"
  | remark => "f-string expression part cannot include '#'"
  | openQuotation => formattedPrefix ++ "unterminated string"
  | unmatched c => formattedPrefix ++ "unmatched " ++ apostrophed c
  | mismatched closing opening =>
    formattedPrefix ++ "closing parenthesis " ++ apostrophed closing ++
      " does not match opening parenthesis " ++ apostrophed opening
  | tooManyBrackets => formattedPrefix ++ "too many nested parenthesis"
  | noExpression none => formattedPrefix ++ "empty expression not allowed"
  | noExpression (some c) =>
    formattedPrefix ++ "expression required before " ++ apostrophed c
  | conversion =>
    formattedPrefix ++
      "invalid conversion character: expected 's', 'r', or 'a'"
  | notClosed => formattedPrefix ++ "expecting '\x7d'"

inductive Mistake where
  | noComma
  | noElse
  | command (word : String)
  /-- A value is given to something that is no name by the sign for naming. -/
  | namedWith (noun : String)
  /-- An equals sign stands behind a name, where only one that compares can
  stand. -/
  | equalsAfterName
  | equalsAfter (noun : String)
  | assign (noun : String)
  | keywordAssignment
  | starredAfterKeywords
  | bareGenerator
  /-- An argument follows those with names; these may be unpacked from a
  table. -/
  | afterKeywords (unpacked : Bool)
  | unpackedComprehension
  | bareTarget
  | unpackedTable
  | starredGroup
  | doubleStarredGroup
  | starredValue
  | noValue
  | noColon
  | noDefault
  | defaultOrder
  | bracketedParameters
  | nothingBeforeSlash
  | secondSlash
  | slashAfterStar
  | noCommaAfterSlash
  | nothingAfterStar
  | starDefault
  | secondStar
  | doubleStarDefault
  | afterDoubleStar
  deriving DecidableEq, Repr

def Mistake.message : Mistake → String
  | noComma => "invalid syntax. Perhaps you forgot a comma?"
  | noElse => "expected 'else' after 'if' expression"
  | command word =>
    "Missing parentheses in call to '" ++ word ++ "'. Did you mean " ++ word ++
      "(...)?"
  | namedWith noun => "cannot use assignment expressions with " ++ noun
  | equalsAfterName =>
    "invalid syntax. Maybe you meant '==' or ':=' instead of '='?"
  | equalsAfter noun =>
    "cannot assign to " ++ noun ++
      " here. Maybe you meant '==' instead of '='?"
  | assign noun => "cannot assign to " ++ noun
  | keywordAssignment =>
    "expression cannot contain assignment, perhaps you meant \"==\"?"
  | starredAfterKeywords =>
    "iterable argument unpacking follows keyword argument unpacking"
  | bareGenerator => "Generator expression must be parenthesized"
  | afterKeywords unpacked =>
    "positional argument follows keyword argument" ++
      if unpacked then " unpacking" else ""
  | unpackedComprehension =>
    "iterable unpacking cannot be used in comprehension"
  | bareTarget => "did you forget parentheses around the comprehension target?"
  | unpackedTable => "dict unpacking cannot be used in dict comprehension"
  | starredGroup => "cannot use starred expression here"
  | doubleStarredGroup => "cannot use double starred expression here"
  | starredValue => "cannot use a starred expression in a dictionary value"
  | noValue => "expression expected after dictionary key and ':'"
  | noColon => "':' expected after dictionary key"
  | noDefault => "expected default value expression"
  | defaultOrder => "non-default argument follows default argument"
  | bracketedParameters =>
    "Lambda expression parameters cannot be parenthesized"
  | nothingBeforeSlash => "at least one argument must precede /"
  | secondSlash => "/ may appear only once"
  | slashAfterStar => "/ must be ahead of *"
  | noCommaAfterSlash => "expected comma between / and *"
  | nothingAfterStar => "named arguments must follow bare *"
  | starDefault => "var-positional argument cannot have default value"
  | secondStar => "* argument may appear only once"
  | doubleStarDefault => "var-keyword argument cannot have default value"
  | afterDoubleStar => "arguments cannot follow var-keyword argument"

inductive FormError where
  | token (e : TokenError)
  | quotation (e : QuotationError)
  | mistake (m : Mistake)
  | tooManyDigits (digits : Nat)
  | margin
  | illFormed
  | inPlace (e : FormError)
  deriving DecidableEq, Repr

def digitLimit : Nat := 4300

def FormError.message : FormError → String
  | token e => e.message
  | quotation e => e.message
  | mistake m => m.message
  | tooManyDigits digits =>
    "Exceeds the limit (" ++ toString digitLimit ++
      " digits) for integer string conversion: value has " ++
      toString digits ++
      " digits; use sys.set_int_max_str_digits() to increase the limit - " ++
      "Consider hexadecimal for huge integer literals to avoid decimal " ++
      "conversion " ++
      "limits."
  | margin => "unexpected indent"
  | illFormed => "invalid syntax"
  | inPlace e => formattedPrefix ++ e.message

inductive ValueError where
  | nullCharacter
  | setInside
  | tableInside
  | noKey
  | notLiteral
  | tooLarge
  | tooDeep
  | noMemory
  deriving DecidableEq, Repr

def ValueError.message : ValueError → String
  | nullCharacter => "source code string cannot contain null bytes"
  | setInside => "unhashable type: 'set'"
  | tableInside => "unhashable type: 'dict'"
  | noKey => "malformed node or string: None"
  | notLiteral => "malformed node or string on line 1"
  | tooLarge => "int too large to convert to float"
  | tooDeep => "maximum recursion depth exceeded during ast construction"
  | noMemory => ""

end Literal

inductive LiteralError where
  | form (e : Literal.FormError)
  | value (e : Literal.ValueError)
  deriving DecidableEq, Repr

def LiteralError.message : LiteralError → String
  | form e => e.message
  | value e => e.message

end Chip8.Text
