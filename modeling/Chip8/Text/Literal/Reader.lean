import Chip8.Text.Literal.Grammar
import Chip8.Text.Literal.Token
import Chip8.Text.LetterForm

/-!
# Reading by the grammar

A reader goes over the tokens of a text and gives back the expressions that it
read, or says that it does not apply at its place; a fault ends all reading
(`Result`). The productions of a rule are tried in turn, each from the place of
the rule, so readers keep what certain rules read at a place
(`Reading.recalled`).

Rules may go to a limited depth inside each other, and each row of patterns
that is an item of a pattern counts as a rule. `Rule.read` is given one step
more than that depth has, so its steps do not run out before the depth is
reached.
-/

namespace Chip8.Text.Literal

inductive Halt where
  | stopped (stop : Stop)
  | form (e : FormError)
  | inside (e : FormError)
  | noMemory
  deriving DecidableEq, Repr

structure Recalled where
  rule : Rule
  parts? : Option (List Expression)
  behind : Nat

structure Reading where
  place : Nat := 0
  seen : Nat := 0
  recalled : Array (List Recalled)

structure Manner where
  scan : Scan
  strict : Bool
  depth : Nat
  quotations : List (Quotation × Nat) → Except Halt Expression

inductive Result where
  | read (parts : List Expression) (s : Reading)
  /-- Nothing can be read. If that is final, no other way is tried. -/
  | missing (final : Bool) (s : Reading)
  | halted (h : Halt) (s : Reading)

abbrev Reader := Manner → Reading → Result

def depthLimit : Nat := 6000

namespace Reading

def moveTo (s : Reading) (place : Nat) : Reading :=
  { s with place }

def kept? (s : Reading) (place : Nat) (r : Rule) : Option Recalled :=
  (s.recalled[place]?.getD []).find? (·.rule = r)

def keep (s : Reading) (place : Nat) (r : Recalled) : Reading :=
  { s with recalled := s.recalled.modify place (r :: ·) }

end Reading

def softWords : List String :=
  ["_", "case", "match"]

namespace Reader

def nothing : Reader := fun _ s => .read [] s

def absent : Reader := fun _ s => .missing false s

def look (f : Token → Reader) : Reader := fun m s =>
  match m.scan.tokens[s.place]?, m.scan.stop? with
  | some t, _ => f t m { s with seen := max s.seen (s.place + 1) }
  | none, some stop => .halted (.stopped stop) s
  | none, none => .missing false s

def step (parts : List Expression) : Reader := fun _ s =>
  .read parts (s.moveTo (s.place + 1))

def token (p : Lexeme → Bool) : Reader :=
  look fun t => if p t.lexeme then step [] else absent

def name : Reader :=
  look fun t =>
    match t.lexeme with
    | .name w => step [.name (plainWord w)]
    | _ => absent

def number : Reader :=
  look fun t =>
    match t.lexeme with
    | .number n =>
      match n.excess? with
      | some digits => fun _ s => .halted (.form (.tooManyDigits digits)) s
      | none => step [.constant (.number n)]
    | _ => absent

def quotationsAt (tokens : Array Token) : Nat → Nat → List (Quotation × Nat)
  | 0, _ => []
  | fuel + 1, place =>
    match tokens[place]? with
    | some ⟨.quotation q, line, _, _⟩ =>
      (q, line) :: quotationsAt tokens fuel (place + 1)
    | _ => []

def quotations : Reader := fun m s =>
  match quotationsAt m.scan.tokens m.scan.tokens.size s.place with
  | [] => absent m s
  | qs =>
    let start := s.place
    match look (fun _ => nothing) m (s.moveTo (start + qs.length)) with
    | .read _ s =>
      match m.quotations qs with
      | .ok e => .read [e] s
      | .error h => .halted h s
    | r => r

def deeper (r : Reader) : Reader := fun m s =>
  if m.depth < depthLimit then r { m with depth := m.depth + 1 } s
  else .halted .noMemory s

/-- Reads something as often as it can be read, but not more often than said,
with the parts that were read before backwards. -/
def many (r : Reader) : Nat → List Expression → Reader
  | 0, parts, _, s => .read parts.reverse s
  | fuel + 1, parts, m, s =>
    let start := s.place
    match r m s with
    | .read more s => many r fuel (more.reverse ++ parts) m s
    | .missing _ s => .read parts.reverse (s.moveTo start)
    | result => result

def manyOf (r : Reader) : Reader := fun m s =>
  many r m.scan.tokens.size [] m s

def someOf (r : Reader) : Reader := fun m s =>
  match r m s with
  | .read parts s => many r m.scan.tokens.size parts.reverse m s
  | result => result

def both (r₁ r₂ : Reader) : Reader := fun m s =>
  match r₁ m s with
  | .read first s =>
    match r₂ m s with
    | .read rest s => .read (first ++ rest) s
    | result => result
  | result => result

def ahead (wanted : Bool) (r : Reader) : Reader := fun m s =>
  let start := s.place
  match r m s with
  | .read _ s =>
    if wanted then .read [] (s.moveTo start)
    else .missing false (s.moveTo start)
  | .missing _ s =>
    if wanted then .missing false (s.moveTo start)
    else .read [] (s.moveTo start)
  | result => result

end Reader

open Literal.Reader in
mutual

def Pattern.read (rule : Rule → Reader) : Pattern → Reader
  | .sign w, m, s => token (· == .sign w) m s
  | .name, m, s => name m s
  | .softWord, m, s => token (fun t => softWords.any (t == .name ·)) m s
  | .number, m, s => number m s
  | .quotation, m, s => token (fun | .quotation _ => true | _ => false) m s
  | .quotations, m, s => quotations m s
  | .newline, m, s => token (· == .newline) m s
  | .finish, m, s => token (· == .finish) m s
  | .rule r, m, s => rule r m s
  | .oneOf rows, m, s => deeper (readOneOf rule s.place rows) m s
  | .optional p, m, s =>
    let start := s.place
    match p.read rule m s with
    | .missing _ s => .read [] (s.moveTo start)
    | result => result
  | .many p, m, s => deeper (manyOf (p.read rule)) m s
  | .some p, m, s => deeper (someOf (p.read rule)) m s
  | .listed p, m, s =>
    deeper
      (both (p.read rule)
        (deeper (manyOf (both (token (· == .sign ",")) (p.read rule))))) m s
  | .ahead p, m, s => ahead true (p.read rule) m s
  | .absent p, m, s => ahead false (p.read rule) m s
  | .commit, _, s => .read [] s

def readRow (rule : Rule → Reader) : List Pattern → Reader
  | [], _, s => .read [] s
  | .commit :: row, m, s =>
    match readRow rule row m s with
    | .missing _ s => .missing true s
    | result => result
  | p :: row, m, s =>
    match p.read rule m s with
    | .read first s =>
      match readRow rule row m s with
      | .read rest s => .read (first ++ rest) s
      | result => result
    | result => result

def readOneOf (rule : Rule → Reader) (start : Nat) :
    List (List Pattern) → Reader
  | [], _, s => .missing false s
  | row :: rows, m, s =>
    match readRow rule row m s with
    | .missing _ s => readOneOf rule start rows m (s.moveTo start)
    | result => result

end

namespace Production

def isInside (m : Manner) (s : Reading) : Bool :=
  (m.scan.tokens[s.place - 1]?).any (·.depth ≠ 0)

def read (rule : Rule → Reader) (p : Production) : Reader := fun m s =>
  if p.isWrong && !m.strict then .missing false s
  else
    match readRow rule p.row m s with
    | .read parts s =>
      match p.action with
      | .keep => .read parts s
      | .build f => .read [f parts] s
      | .check f =>
        match f (isInside m s) parts with
        | some e => .halted (.form (.mistake e)) s
        | none => .missing true s
    | result => result

def readFirst (rule : Rule → Reader) (start : Nat) : List Production → Reader
  | [], _, s => .missing false s
  | p :: rest, m, s =>
    match p.read rule m s with
    | .missing false s => readFirst rule start rest m (s.moveTo start)
    | .missing true s => .missing false (s.moveTo start)
    | result => result

end Production

namespace Reader

/-- Reads a rule as it was read before at its place, or else anew; what it
reads is kept then. -/
def recalling (r : Rule) (reader : Reader) : Reader := fun m s =>
  let start := s.place
  match s.kept? start r with
  | some ⟨_, some parts, behind⟩ => .read parts (s.moveTo behind)
  | some ⟨_, none, _⟩ => .missing false s
  | none =>
    match reader m s with
    | .read parts s => .read parts (s.keep start ⟨r, some parts, s.place⟩)
    | .missing _ s =>
      .missing false ((s.moveTo start).keep start ⟨r, none, start⟩)
    | result => result

/-- Reads a rule again and again at a place as long as it reads more than it
did. -/
def growing (r : Rule) (reader : Reader) (start : Nat) :
    Nat → Option (List Expression) → Nat → Reader
  | 0, parts?, behind, _, s => settled parts? behind s
  | fuel + 1, parts?, behind, m, s =>
    let s := (s.moveTo start).keep start ⟨r, parts?, behind⟩
    match reader m s with
    | .read parts s =>
      if s.place ≤ behind then settled parts? behind s
      else growing r reader start fuel (some parts) s.place m s
    | .missing _ s => settled parts? behind s
    | result => result
where
  settled (parts? : Option (List Expression)) (behind : Nat) (s : Reading) :
    Result :=
    match parts? with
    | some parts => .read parts (s.moveTo behind)
    | none => .missing false (s.moveTo behind)

end Reader

open Literal.Reader in
def Rule.read : Nat → Rule → Reader
  | 0, _, _, s => .halted .noMemory s
  | steps + 1, r, m, s =>
    let m := if r.isSober then { m with strict := false } else m
    let reader : Reader := fun m s =>
      Production.readFirst (Rule.read steps) s.place r.productions m s
    match r.retention with
    | .never => deeper reader m s
    | .kept => deeper (recalling r reader) m s
    | .growing =>
      deeper
        (recalling r fun m s =>
          growing r (deeper reader) s.place (m.scan.tokens.size + 1) none
            s.place m s)
        m s

end Chip8.Text.Literal
