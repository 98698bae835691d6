import Chip8.Text.Literal.Expression

/-!
# The values of literals

A literal is a constant, a number with a sign, the sum of a number and an
imaginary one, or made of literals: a tuple, a set or a table. The empty set is
written as a call. What is put into a set, or is a key of a table, must not be
a set or a table itself, nor a tuple that holds one.
-/

namespace Chip8.Text.Literal

/-- A value, as far as it matters where it may be put. -/
inductive Value where
  | plain
  | set
  | table
  | tuple (elements : List Value)

def Value.misplaced? : Value → Option ValueError
  | plain => none
  | set => some .setInside
  | table => some .tableInside
  | tuple elements => firstMisplaced? elements
where
  firstMisplaced? : List Value → Option ValueError
    | [] => none
    | v :: rest => misplaced? v <|> firstMisplaced? rest

def Value.put (v : Value) : Except ValueError Unit :=
  match v.misplaced? with
  | some e => .error e
  | none => .ok ()

namespace Expression

def number? : Expression → Option Number
  | constant (.number n) => some n
  | _ => none

def signedNumber? : Expression → Option Number
  | node _ .signed [e] => e.number?
  | e => e.number?

def sumValue (left right : Expression) : Except ValueError Value :=
  match left.signedNumber?, right.number? with
  | some (.whole kind digits), some .imaginary =>
    if (Number.whole kind digits).isHuge then .error .tooLarge else .ok .plain
  | some .real, some .imaginary => .ok .plain
  | _, _ => .error .notLiteral

def value : Expression → Except ValueError Value
  | constant _ => .ok .plain
  | node _ .tuple parts => .tuple <$> values parts
  | node _ .set parts => do
    putAll parts
    return .set
  | node _ .table entries => do
    putKeys entries
    return .table
  | node _ .call [name w] => if w = "set" then .ok .set else .error .notLiteral
  | node _ .signed [e] =>
    if e.number?.isSome then .ok .plain else .error .notLiteral
  | node _ .sum [left, right] => sumValue left right
  | _ => .error .notLiteral
where
  values : List Expression → Except ValueError (List Value)
    | [] => .ok []
    | e :: rest => do
      let v ← value e
      return v :: (← values rest)
  putAll : List Expression → Except ValueError Unit
    | [] => .ok ()
    | e :: rest => do
      (← value e).put
      putAll rest
  putKeys : List Expression → Except ValueError Unit
    | [] => .ok ()
    | node _ .entry [k, v] :: rest => do
      let key ← value k
      let _ ← value v
      key.put
      putKeys rest
    | _ :: _ => .error .noKey

end Expression

end Chip8.Text.Literal
