import Chip8.Text.Literal.Number

/-!
# Expressions

What a literal is read as: names, constants, and nodes whose shape says how
their parts belong together. An expression that is no literal is read too,
because it may stand where a mistake is called by name; `Expression.noun` says
what an expression is called then, and `Expression.unassignable?` finds the
part of it that cannot be given a value.
-/

namespace Chip8.Text.Literal

inductive Constant where
  | none
  | boolean (b : Bool)
  | ellipsis
  | number (n : Number)
  | text
  | bytes
  deriving DecidableEq, Repr

inductive Shape where
  | sum
  | signed
  | operation
  | comparison
  /-- What an operand is compared with; `inside` says whether it may hold
  it. -/
  | compared (inside : Bool)
  | conditional
  | anonymous
  | named
  | member
  | call
  | arguments
  | keyword
  | keywords
  | starred
  | yielded
  | awaited
  | tuple
  | set
  | table
  | entry
  | unpacked
  | generator
  | setComprehension
  | tableComprehension
  | clause
  | formatted
  deriving DecidableEq, Repr

inductive Expression where
  | name (w : String)
  | constant (c : Constant)
  /-- A node, with the number of nodes above each other in it. -/
  | node (height : Nat) (shape : Shape) (parts : List Expression)

namespace Expression

def height : Expression → Nat
  | name _ | constant _ => 1
  | node h _ _ => h

def ofParts (shape : Shape) (parts : List Expression) : Expression :=
  node (parts.foldl (fun h e => max h e.height) 0 + 1) shape parts

end Expression

def Constant.noun : Constant → String
  | none => "None"
  | boolean true => "True"
  | boolean false => "False"
  | ellipsis => "ellipsis"
  | number _ | text | bytes => "literal"

def Shape.noun : Shape → String
  | sum | signed | operation => "expression"
  | comparison | compared _ => "comparison"
  | conditional => "conditional expression"
  | anonymous => "lambda"
  | named => "named expression"
  | member => "attribute"
  | call | arguments | keyword | keywords => "function call"
  | starred => "starred"
  | yielded => "yield expression"
  | awaited => "await expression"
  | tuple => "tuple"
  | set => "set display"
  | table | entry | unpacked => "dict literal"
  | generator | clause => "generator expression"
  | setComprehension => "set comprehension"
  | tableComprehension => "dict comprehension"
  | formatted => "f-string expression"

namespace Expression

def noun : Expression → String
  | name _ => "name"
  | constant c => c.noun
  | node _ shape _ => shape.noun

def commands : List String :=
  ["print", "exec"]

def command? : Expression → Option String
  | name w => if commands.contains w then some w else none
  | _ => none

/-- The first part of an expression that cannot be given a value. In a
comparison it is looked for only on the left of the word that begins what a
comprehension runs over. -/
def unassignable? : Expression → Option Expression
  | name _ => none
  | node _ .member _ => none
  | node _ .tuple parts => firstUnassignable? parts
  | node _ .starred (e :: _) => unassignable? e
  | node _ .comparison (e :: node _ (.compared inside) _ :: _) =>
    if inside then unassignable? e else none
  | e => some e
where
  firstUnassignable? : List Expression → Option Expression
    | [] => none
    | e :: rest => unassignable? e <|> firstUnassignable? rest

def isKeyword : Expression → Bool
  | node _ .keyword _ | node _ .keywords _ => true
  | _ => false

def isKeywords : Expression → Bool
  | node _ .keywords _ => true
  | _ => false

def arguments : Expression → List Expression
  | node _ .arguments parts => parts
  | _ => []

end Expression

end Chip8.Text.Literal
