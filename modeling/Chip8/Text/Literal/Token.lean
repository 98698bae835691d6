import Chip8.Text.Identifier
import Chip8.Text.Literal.Number

/-!
# Tokens of literals

A literal is cut into names, numbers, quotations and signs. What stands between
a number sign and the end of its line is a remark. A line outside of all
brackets ends with a token of its own, and so begins one that is set in by
other blanks than the lines above it. `Token.scan` cuts as far as it can; what
stops it is kept beside the tokens that stand in front of it.
-/

namespace Chip8.Text.Literal

structure Quotation where
  bytes : Bool
  raw : Bool
  formatted : Bool
  body : List Char
  deriving DecidableEq, Repr

inductive Lexeme where
  | name (w : String)
  | sign (s : String)
  | number (n : Number)
  | quotation (q : Quotation)
  | newline
  | indent
  | dedent
  | finish
  deriving DecidableEq, Repr

structure Token where
  lexeme : Lexeme
  line : Nat
  depth : Nat
  /-- Whether the end of the text was found when the end of the token was. -/
  last : Bool := false
  deriving DecidableEq, Repr

structure Stop where
  error : TokenError
  /-- Whether that is told only if the rest is wanted. -/
  postponed : Bool
  opened : List (Bracket × Nat)
  deriving DecidableEq, Repr

structure Scan where
  tokens : Array Token
  stop? : Option Stop
  deriving DecidableEq, Repr

def reservedWords : List String :=
  ["False", "None", "True", "and", "as", "assert", "async", "await", "break",
    "class", "continue", "def", "del", "elif", "else", "except", "finally",
    "for", "from", "global", "if", "import", "in", "is", "lambda", "nonlocal",
    "not", "or", "pass", "raise", "return", "try", "while", "with", "yield"]

namespace Token

def foreign? : List Char → Option Char
  | [] => none
  | c :: rest =>
    if startsIdentifier c then rest.find? (!continuesIdentifier ·) else some c

def word (cs : List Char) : Except TokenError Lexeme :=
  match foreign? cs with
  | some c => .error (.character c)
  | none =>
    let w := String.ofList cs
    .ok (if reservedWords.contains w then .sign w else .name w)

/-- The body of a quotation on one line, with what was read of it backwards;
the line that it ends on; and what follows. -/
def shortBody (mark : Char) (line : Nat) (read : List Char) :
    List Char → Except TokenError (List Char × Nat × List Char)
  | '\\' :: c :: rest =>
    shortBody mark (if c = '\n' then line + 1 else line)
      (c :: '\\' :: read) rest
  | c :: rest =>
    if c = mark then .ok (read.reverse, line, rest)
    else if c = '\n' then .error (.openQuotation false line)
    else shortBody mark line (c :: read) rest
  | [] => .error (.openQuotation false line)

def longBody (mark : Char) (line : Nat) (read : List Char) :
    List Char → Except TokenError (List Char × Nat × List Char)
  | '\\' :: c :: rest =>
    longBody mark (if c = '\n' then line + 1 else line)
      (c :: '\\' :: read) rest
  | a :: b :: c :: rest =>
    if a = mark ∧ b = mark ∧ c = mark then .ok (read.reverse, line, rest)
    else
      longBody mark (if a = '\n' then line + 1 else line) (a :: read)
        (b :: c :: rest)
  | rest => .error (.openQuotation true (line + rest.dropLast.count '\n'))

def body (mark : Char) (line : Nat) (cs : List Char) :
    Except TokenError (List Char × Nat × List Char) :=
  match cs with
  | a :: b :: rest =>
    if a = mark ∧ b = mark then longBody mark line [] rest
    else shortBody mark line [] cs
  | _ => shortBody mark line [] cs

/-- The words that may stand in front of a quotation and belong to it, in small
letters; the empty word is one. -/
def quotationKinds : List String :=
  ["", "r", "b", "u", "f", "br", "rb", "fr", "rf"]

def longSigns : List String :=
  ["**=", "//=", ">>=", "<<=", "...", "**", "//", ">>", "<<", "<=", ">=", "==",
    "!=", "<>", "->", "+=", "-=", "*=", "/=", "%=", "&=", "|=", "^=", "@=",
    ":="]

def longSign? (cs : List Char) : Option String :=
  longSigns.find? fun s => s.toList.isPrefixOf cs

def isSpace (c : Char) : Bool :=
  c = ' ' || c = '\t' || c.toNat = 12

end Token

structure Scanner where
  line : Nat
  opened : List (Bracket × Nat) := []
  depth : Nat := 0
  /-- How far lines are set in, the innermost first, with tabs of eight columns
  and with tabs of one. -/
  margins : List (Nat × Nat) := []
  fresh : Bool := true

def bracketLimit : Nat := 200

/-- So many margins there may be, that of the text being one. -/
def marginLimit : Nat := 100

namespace Scanner

def tokenHere (s : Scanner) (lexeme : Lexeme) (last : Bool) : Token :=
  ⟨lexeme, s.line, s.depth, last⟩

def halt (s : Scanner) (tokens : Array Token) (e : TokenError) : Scan :=
  ⟨tokens, some ⟨e, false, s.opened⟩⟩

def postpone (s : Scanner) (tokens : Array Token) (e : TokenError) : Scan :=
  ⟨tokens, some ⟨e, true, s.opened⟩⟩

def finish (s : Scanner) (tokens : Array Token) : Scan :=
  match s.opened with
  | (b, _) :: _ => s.postpone tokens (.neverClosed b)
  | [] => ⟨tokens.push (s.tokenHere .finish true), none⟩

def cutShort (s : Scanner) (tokens : Array Token) : Scan :=
  match s.opened with
  | (b, _) :: _ => s.postpone tokens (.neverClosed b)
  | [] => s.postpone tokens .cutShort

def endLine (s : Scanner) (rest : List Char) : Scanner :=
  { s with fresh := true, line := if rest.isEmpty then s.line else s.line + 1 }

def comeBack (s : Scanner) (column narrow : Nat) :
    List (Nat × Nat) → Except TokenError (List Token × Scanner)
  | (c, n) :: margins =>
    if column < c then
      (s.comeBack column narrow margins).map fun (tokens, after) =>
        (s.tokenHere .dedent false :: tokens, after)
    else if column ≠ c then .error .unevenMargin
    else if narrow ≠ n then .error .mixedMargin
    else .ok ([], { s with margins := (c, n) :: margins })
  | [] =>
    if column ≠ 0 then .error .unevenMargin
    else if narrow ≠ 0 then .error .mixedMargin
    else .ok ([], { s with margins := [] })

def setMargin (s : Scanner) (column narrow : Nat) :
    Except TokenError (List Token × Scanner) :=
  let (c, n) := s.margins.head?.getD (0, 0)
  if column = c then if narrow = n then .ok ([], s) else .error .mixedMargin
  else if c < column then
    if s.margins.length + 2 > marginLimit then .error .tooManyMargins
    else if narrow ≤ n then .error .mixedMargin
    else
      .ok
        ([s.tokenHere .indent false],
          { s with margins := (column, narrow) :: s.margins })
  else s.comeBack column narrow s.margins

def openBracket (s : Scanner) (b : Bracket) : Except TokenError Scanner :=
  if s.depth < bracketLimit then
    .ok { s with opened := (b, s.line) :: s.opened, depth := s.depth + 1 }
  else .error .tooManyBrackets

def closeBracket (s : Scanner) (b : Bracket) : Except TokenError Scanner :=
  match s.opened with
  | [] => .error (.unmatched b)
  | (last, line) :: opened =>
    if last = b then .ok { s with opened, depth := s.depth - 1 }
    else
      .error (.mismatched b last (if line = s.line then none else some line))

def shortSign (s : Scanner) (c : Char) : Except TokenError Scanner :=
  match Bracket.opens? c, Bracket.closes? c with
  | some b, _ => s.openBracket b
  | none, some b => s.closeBracket b
  | none, none => if isPrintable c then .ok s else .error (.character c)

def quotation (s : Scanner) (kind : String) (mark : Char) (cs : List Char) :
    Except TokenError (Token × Scanner × List Char) := do
  let (body, line, rest) ← Token.body mark s.line cs
  let q := ⟨kind.contains 'b', kind.contains 'r', kind.contains 'f', body⟩
  return (s.tokenHere (.quotation q) false, { s with line }, rest)

def token (s : Scanner) (cs : List Char) :
    Except TokenError (Token × Scanner × List Char) :=
  let letters := cs.takeWhile inWord
  let kind := String.ofList (letters.map Char.toLower)
  let rest := cs.dropWhile inWord
  if beginsNumber cs then do
    let (n, rest) ← numberAt cs
    return (s.tokenHere (.number n) rest.isEmpty, s, rest)
  else
    match rest with
    | mark :: after =>
      if (mark = apostrophe || mark = doubleMark) &&
          Token.quotationKinds.contains kind then
        s.quotation kind mark after
      else if letters.isEmpty then
        match Token.longSign? rest with
        | some sign =>
          let after := rest.drop sign.length
          let last := after.isEmpty && sign.length < 3
          .ok (s.tokenHere (.sign sign) last, s, after)
        | none => do
          let s ← s.shortSign mark
          return (s.tokenHere (.sign mark.toString) after.isEmpty, s, after)
      else do return (s.tokenHere (← Token.word letters) false, s, rest)
    | [] => do return (s.tokenHere (← Token.word letters) true, s, [])

/-- How a line begins: the columns of its first character, with tabs of eight
columns and with tabs of one; the line that this character stands on, for a
backslash may end a line of blanks; and the text from there on. The first such
backslash settles the columns. One that ends no line is given back as the first
character. -/
def lineStart (line : Nat) (column narrow kept : Nat) :
    List Char → Nat × Nat × Nat × List Char
  | ' ' :: rest => lineStart line (column + 1) (narrow + 1) kept rest
  | '\t' :: rest =>
    lineStart line ((column / 8 + 1) * 8) (narrow + 1) kept rest
  | '\x0c' :: rest => lineStart line 0 0 kept rest
  | '\\' :: '\n' :: c :: rest =>
    lineStart (line + 1) column narrow (if kept = 0 then column else kept)
      (c :: rest)
  | rest =>
    if kept = 0 then (column, narrow, line, rest) else (kept, kept, line, rest)

/-- Begins a line. A line of blanks or with nothing but a remark has no
margin. -/
def beginLine (s : Scanner) (cs : List Char) :
    Except TokenError (List Token × Scanner × List Char) :=
  let (column, narrow, line, rest) := lineStart s.line 0 0 0 cs
  let s := { s with line, fresh := false }
  match rest with
  | '\n' :: rest => .ok ([], s.endLine rest, rest)
  | '#' :: remark =>
    match remark.dropWhile (· ≠ '\n') with
    | _ :: rest => .ok ([], s.endLine rest, rest)
    | [] => .ok ([], s, [])
  | '\\' :: _ => .ok ([], s, rest)
  | _ =>
    if s.depth = 0 then
      (s.setMargin column narrow).map fun (tokens, s) => (tokens, s, rest)
    else .ok ([], s, rest)

/-- Cuts a text into tokens behind those that were cut off before, in so many
steps at most. -/
def scan : Nat → Scanner → Array Token → List Char → Scan
  | 0, s, tokens, _ => s.finish tokens
  | fuel + 1, s, tokens, cs =>
    if s.fresh then
      match s.beginLine cs with
      | .ok (more, s, rest) => scan fuel s (more.foldl .push tokens) rest
      | .error e => s.postpone tokens e
    else
      match cs with
      | [] => s.finish tokens
      | '\n' :: rest =>
        let tokens :=
          if s.depth = 0 then tokens.push (s.tokenHere .newline false)
          else tokens
        scan fuel (s.endLine rest) tokens rest
      | ['\\', '\n'] => s.cutShort tokens
      | '\\' :: '\n' :: rest =>
        scan fuel { s with line := s.line + 1 } tokens rest
      | '\\' :: _ => s.postpone tokens .strayBackslash
      | '#' :: rest => scan fuel s tokens (rest.dropWhile (· ≠ '\n'))
      | c :: rest =>
        if Token.isSpace c then scan fuel s tokens rest
        else
          match s.token cs with
          | .ok (t, s, rest) => scan fuel s (tokens.push t) rest
          | .error e => s.halt tokens e

end Scanner

/-- Cuts a text that begins on a line into tokens. There are at most two steps
for a character, one of them at the beginning of a line. -/
def scan (line : Nat) (cs : List Char) : Scan :=
  Scanner.scan (2 * cs.length + 2) { line } #[] cs

end Chip8.Text.Literal
