import Chip8.Text.Literal.Quotation

/-!
# The form of a text

A text is read by the grammar. If that fails, it is read once more, and
mistakes are looked for. What is said in the end may still be that the rest of
the text cannot be cut into tokens, for that counts more than what was found in
front of it.
-/

namespace Chip8.Text.Literal

inductive Extent where
  | whole
  | place
  deriving DecidableEq, Repr

namespace Extent

def rule : Extent → Rule
  | whole => .literal
  | place => .place

def tell : Extent → FormError → FormError
  | whole, e => e
  | place, e => .inPlace e

end Extent

def Reading.lastSeen? (s : Reading) (scan : Scan) : Option Token :=
  scan.tokens[s.seen - 1]?

/-- The fault that the rest of a text shows behind what has been looked at. A
bracket that is not closed counts if it stands on an earlier line than what was
looked at last. -/
def restFault? (scan : Scan) (last? : Option Token) : Option TokenError :=
  scan.stop?.bind fun stop =>
    if !stop.postponed then some stop.error
    else
      match stop.opened with
      | (b, line) :: _ =>
        if last?.any (line < ·.line) then some (.neverClosed b) else none
      | [] => none

def haltError (extent : Extent) (scan : Scan) (h : Halt) (s : Reading) :
    LiteralError :=
  let last? := s.lastSeen? scan
  let unlessRest (e : FormError) : FormError :=
    if last?.any (·.last) then e
    else ((restFault? scan last?).map .token).getD e
  match h with
  | .stopped stop =>
    let e := FormError.token stop.error
    .form (if stop.postponed then extent.tell e else e)
  | .form e => .form (unlessRest (extent.tell e))
  | .inside e => .form (unlessRest e)
  | .noMemory => .value .noMemory

def plainError (extent : Extent) (scan : Scan) (first second : Reading) :
    LiteralError :=
  if (first.lastSeen? scan).any (·.lexeme = .indent) then
    .form (extent.tell .margin)
  else
    .form
      (((restFault? scan (second.lastSeen? scan)).map .token).getD
        (extent.tell .illFormed))

/-- The expression that a text is, which begins on a line. Quotations may have
places to such a depth at most. -/
def readForm : Nat → Extent → Nat → List Char → Except LiteralError Expression
  | 0, _, _, _ => .error (.value .noMemory)
  | depth + 1, extent, line, cs =>
    let scan := scan line cs
    let inside (line : Nat) (text : List Char) : Except Halt Expression :=
      match readForm depth .place line ('(' :: text ++ [')', '\n']) with
      | .ok e => .ok e
      | .error (.form e) => .error (.inside e)
      | .error (.value _) => .error .noMemory
    let read (strict : Bool) (seen : Nat) : Result :=
      extent.rule.read (depthLimit + 1)
        ⟨scan, strict, 0, Quotation.joined inside⟩
        { seen, recalled := Array.replicate (scan.tokens.size + 1) [] }
    match read false 0 with
    | .read (e :: _) _ => .ok e
    | .halted h s => .error (haltError extent scan h s)
    | .read [] first | .missing _ first =>
      match read true first.seen with
      | .halted h s => .error (haltError extent scan h s)
      | .read _ second | .missing _ second =>
        .error (plainError extent scan first second)

def withLines : List Char → List Char
  | '\r' :: '\n' :: rest => '\n' :: withLines rest
  | '\r' :: rest => '\n' :: withLines rest
  | c :: rest => c :: withLines rest
  | [] => []

/-- The expression that a text is. A place is shorter than the text that it
stands in. -/
def form (cs : List Char) : Except LiteralError Expression :=
  readForm (cs.length + 1) .whole 1 (withLines cs)

end Chip8.Text.Literal
