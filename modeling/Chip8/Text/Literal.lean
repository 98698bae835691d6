import Chip8.Text.Literal.Form
import Chip8.Text.Literal.Value

/-!
# Literals

A literal writes down a value: a number with or without a sign, a complex
number, a quotation, one of the words `None`, `True` and `False`, three dots,
or literals with commas between them, in brackets or not. Curly brackets hold
sets, or tables with a colon after each key; `set()` is the empty set.

`Literal.error?` finds what keeps a text from being one: it must have the form
of an expression (`Literal.form`), and this must have a value
(`Expression.value`).
-/

namespace Chip8.Text.Literal

/-- So many nodes may stand above each other in an expression that has a
value. -/
def heightLimit : Nat := 2800

def error? (cs : List Char) : Option LiteralError :=
  if cs.contains '\x00' then some (.value .nullCharacter)
  else
    match form cs with
    | .error e => some e
    | .ok e =>
      if heightLimit < e.height then some (.value .tooDeep)
      else
        match e.value with
        | .error e => some (.value e)
        | .ok _ => none

end Chip8.Text.Literal
