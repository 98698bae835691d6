import Chip8.Text.Literal.Escape
import Chip8.Text.Literal.Expression

/-!
# Places in formatted quotations

A formatted quotation has places between curly brackets, each with an
expression in it; behind that there may be an equals sign, a letter that tells
how the value is converted, and a format, which may have places itself. A
bracket written twice stands for itself.

What the expressions are is left to the one who wants the places read
(`Manner.expression`).
-/

namespace Chip8.Text.Literal.Place

def bracketLimit : Nat := 200

def depthLimit : Nat := 2

structure Lead where
  text : List Char
  doubled : Bool
  rest : List Char

/-- The end of the text in front of a place, if a character is a bracket. In a
format no bracket is written twice. -/
def leadEnd? (inFormat : Bool) (read : List Char) (c : Char)
    (rest : List Char) :
    Option (Except QuotationError Lead) :=
  if c ≠ '{' ∧ c ≠ '\x7d' then none
  else if inFormat then some (.ok ⟨read.reverse, false, c :: rest⟩)
  else if rest.head? = some c then
    some (.ok ⟨(c :: read).reverse, true, rest.tail⟩)
  else if c = '\x7d' then some (.error .loneBrace)
  else some (.ok ⟨read.reverse, false, c :: rest⟩)

/-- The text in front of the first place, with what was read of it backwards.
Brackets around the name of a character begin no place. -/
def lead (raw inFormat inName : Bool) (read : List Char) :
    List Char → Except QuotationError Lead
  | [] => .ok ⟨read.reverse, false, []⟩
  | c :: rest =>
    if inName then lead raw inFormat (c ≠ '\x7d') (c :: read) rest
    else if c = '\\' && !raw then
      match rest with
      | 'N' :: b :: rest =>
        lead raw inFormat (b = '{') (b :: 'N' :: c :: read) rest
      | d :: rest =>
        match leadEnd? inFormat (c :: read) d rest with
        | some result => result
        | none => lead raw inFormat false (d :: c :: read) rest
      | [] => .ok ⟨(c :: read).reverse, false, []⟩
    else
      match leadEnd? inFormat read c rest with
      | some result => result
      | none => lead raw inFormat false (c :: read) rest

structure OpenQuotation where
  mark : Char
  long : Bool
  deriving DecidableEq, Repr

structure Following where
  quotation? : Option OpenQuotation := none
  opened : List Bracket := []
  /-- So many characters belong to the sign that was read last. -/
  due : Nat := 0
  read : List Char := []

def isComparison (c d : Char) : Bool :=
  d = '=' && ['!', '=', '<', '>'].contains c

def endsExpression (c : Char) : Bool :=
  ['!', ':', '\x7d', '='].contains c

namespace Following

def add (f : Following) (c : Char) : Following :=
  { f with read := c :: f.read }

def addPlain (f : Following) (c : Char) : Except QuotationError Following :=
  match Bracket.opens? c, Bracket.closes? c, f.opened with
  | some b, _, opened =>
    if opened.length < bracketLimit then
      .ok { f.add c with opened := b :: opened }
    else .error .tooManyBrackets
  | none, some _, [] => .error (.unmatched c)
  | none, some b, last :: opened =>
    if last = b then .ok { f.add c with opened }
    else .error (.mismatched c last.opening)
  | none, none, _ => if c = '#' then .error .remark else .ok (f.add c)

/-- Goes on behind a character that others follow, unless the expression ends
in front of it. -/
def next? (f : Following) (c : Char) (rest : List Char) :
    Except QuotationError (Option Following) :=
  let tripled := rest.take 2 = [c, c]
  if f.due ≠ 0 then .ok (some { f.add c with due := f.due - 1 })
  else if c = '\\' then .error .backslash
  else
    match f.quotation? with
    | some q =>
      if c ≠ q.mark then .ok (some (f.add c))
      else if !q.long then .ok (some { f.add c with quotation? := none })
      else if tripled then
        .ok (some { f.add c with quotation? := none, due := 2 })
      else .ok (some (f.add c))
    | none =>
      if c = apostrophe || c = doubleMark then
        .ok (some
          { f.add c with
            quotation? := some ⟨c, tripled⟩
            due := if tripled then 2 else 0 })
      else if f.opened.isEmpty && rest.head?.any (isComparison c) then
        .ok (some { f.add c with due := 1 })
      else if f.opened.isEmpty && endsExpression c then .ok none
      else (f.addPlain c).map some

def endText (f : Following) : Except QuotationError (List Char) :=
  match f.quotation?, f.opened with
  | some _, _ => .error .openQuotation
  | none, b :: _ => .error (.unmatched b.opening)
  | none, [] => .ok f.read.reverse

end Following

/-- An expression and what follows it. It is followed over quotations and
brackets to the first character that can end it. -/
def expression (f : Following) :
    List Char → Except QuotationError (List Char × List Char)
  | [] => f.endText.map fun text => (text, [])
  | c :: rest =>
    match f.next? c rest with
    | .ok (some f) => expression f rest
    | .ok none => .ok (f.read.reverse, c :: rest)
    | .error e => .error e

def isBlankText (cs : List Char) : Bool :=
  cs.all fun c => [' ', '\t', '\n', '\x0c'].contains c

def afterConversion (cs : List Char) : Except QuotationError (List Char) :=
  match cs with
  | '!' :: c :: rest =>
    if ['s', 'r', 'a'].contains c then .ok rest else .error .conversion
  | ['!'] => .error .notClosed
  | _ => .ok cs

structure Manner (ε : Type) where
  raw : Bool
  fault : QuotationError → ε
  expression : Nat → List Char → Except ε Expression

/-- The expressions in the places of a text from a line on, the line that it
ends on and what follows it, in so many steps at most. A text that is a format
ends before the bracket that closes its place. -/
def readFrom {ε : Type} (m : Manner ε) :
    Nat → Nat → Nat → List Char → Except ε (List Expression × Nat × List Char)
  | 0, _, line, cs => .ok ([], line, cs)
  | fuel + 1, depth, line, cs => do
    let lead ← (lead m.raw (depth ≠ 0) false [] cs).mapError m.fault
    if let (false, some e) := (m.raw, escapeError? lead.text) then
      throw (m.fault e)
    let line := line + lead.text.count '\n'
    match lead.doubled, lead.rest with
    | true, rest => readFrom m fuel depth line rest
    | false, '{' :: rest =>
      if depthLimit ≤ depth then throw (m.fault .tooDeep)
      let (text, rest) ← (expression {} rest).mapError m.fault
      if rest.isEmpty then throw (m.fault .notClosed)
      if isBlankText text then
        throw (m.fault (.noExpression (rest.head?.filter (· ≠ '\x7d'))))
      let e ← m.expression line text
      let line := line + text.count '\n'
      let rest := if rest.head? = some '=' then rest.tail else rest
      let (inside, line, rest) ←
        match ← (afterConversion rest).mapError m.fault with
        | [':'] => throw (m.fault .notClosed)
        | ':' :: rest => readFrom m fuel (depth + 1) line rest
        | rest => .ok ([], line, rest)
      match rest with
      | '\x7d' :: rest =>
        let (more, line, rest) ← readFrom m fuel depth line rest
        return (e :: inside ++ more, line, rest)
      | _ => throw (m.fault .notClosed)
    | false, rest =>
      if depth ≠ 0 && rest.isEmpty then throw (m.fault .notClosed)
      else return ([], line, rest)

/-- The expressions in the places of a text that begins on a line. Each step
reads at least one character. -/
def read {ε : Type} (m : Manner ε) (line : Nat) (cs : List Char) :
    Except ε (List Expression) :=
  (readFrom m (cs.length + 1) 0 line cs).map (·.1)

end Chip8.Text.Literal.Place
