import Chip8.Text.Emoji
import Chip8.Text.Alphanumeric
import Chip8.Text.Literal
import Chip8.Text.Style
import Chip8.Text.StyledText

/-!
# Markup

Text may be marked up with tags in square brackets, which say how what follows
is to look. A tag begins with a small letter, `#`, `/` or `@` and goes up to
the next closing bracket, without another opening one between. It is the name
of a style and perhaps, after `=`, its parameters. Backslashes in front of a
tag stand for half as many; an odd one makes the tag plain text, and makes any
other opening bracket nothing but itself. Emoji codes are replaced in the texts
between the tags.

A style lasts until it is closed or to the end of the text. A tag that begins
with `/` closes the last open tag of the same style, or the last open tag if it
names none. `Markup.read` refuses a text with a closing tag that closes
nothing.

A tag that begins with `@` names an event instead of a style. Its parameters
are what handles the event: a name with arguments in round brackets, or
arguments only. They are read when the tag is closed, and have to be a literal.

Where there is one way to show text only, tags show as nothing.
-/

namespace Chip8.Text

namespace Markup

structure Tag where
  name : List Char
  parameters? : Option (List Char) := none
  deriving DecidableEq, Repr

namespace Tag

def ofBody (body : List Char) : Tag :=
  match body.dropWhile (· ≠ '=') with
  | _ :: parameters => ⟨body.takeWhile (· ≠ '='), some parameters⟩
  | [] => ⟨body, none⟩

def written (t : Tag) : String :=
  String.ofList <| '[' :: t.name ++
    (match t.parameters? with
      | some parameters => '=' :: parameters
      | none => []) ++ [']']

def style (t : Tag) : String :=
  String.ofList <| t.name ++
    match t.parameters? with
    | some parameters => ' ' :: parameters
    | none => []

/-- The name of what a closing tag closes; empty if it names nothing. -/
def closes? (t : Tag) : Option (List Char) :=
  match t.name with
  | '/' :: name => some (strip name)
  | _ => none

end Tag

def Tag.isEvent (t : Tag) : Bool :=
  t.name.head? = some '@'

def inHandler (c : Char) : Bool :=
  isAlphanumeric c || c = '_' || c = '.'

/-- The arguments that are written as the parameters of an event, without the
name of a handler in front. A name alone has no arguments. -/
def arguments (parameters : List Char) : List Char :=
  let given := strip parameters
  match given.dropWhile inHandler with
  | [] => ['(', ')']
  | '(' :: rest =>
    if rest.getLast? = some ')' && !rest.contains '\n' then '(' :: rest
    else given
  | _ => given

inductive Error where
  | notOpen (tag : String) (position : Nat)
  | nothingOpen (position : Nat)
  | event (arguments parameters : String) (e : LiteralError)
  | style (e : StyleError)
  deriving DecidableEq, Repr

def Error.message : Error → String
  | notOpen tag position =>
    "closing tag '" ++ tag ++ "' at position " ++ toString position ++
      " doesn't match any open tag"
  | nothingOpen position =>
    "closing tag '[/]' at position " ++ toString position ++
      " has nothing to close"
  | event arguments parameters (.form e) =>
    "error parsing " ++ quoted arguments ++ " in " ++ quoted parameters ++
      "; " ++ e.message
  | event _ parameters (.value e) =>
    "error parsing " ++ quoted parameters ++ "; " ++ e.message
  | style e => e.message

def startsTag (c : Char) : Bool :=
  ('a' ≤ c && c ≤ 'z') || c = '#' || c = '/' || c = '@'

def insideTag (c : Char) : Bool :=
  c ≠ '[' && c ≠ ']'

def tag? : List Char → Option (List Char × List Char)
  | '[' :: c :: rest =>
    match startsTag c, rest.dropWhile insideTag with
    | true, ']' :: after => some (c :: rest.takeWhile insideTag, after)
    | _, _ => none
  | _ => none

theorem length_tag? {cs body after : List Char}
    (h : tag? cs = some (body, after)) :
    after.length < cs.length := by
  unfold tag? at h
  split at h
  · rename_i c rest
    split at h
    · rename_i heq
      have := (List.dropWhile_suffix insideTag (l := rest)).length_le
      rw [heq, List.length_cons] at this
      cases h
      simp only [List.length_cons]
      omega
    · cases h
  · cases h

def isBackslash (c : Char) : Bool :=
  c = '\\'

inductive Piece where
  | text (cs : List Char)
  | tag (position : Nat) (t : Tag)
  deriving DecidableEq, Repr

def tagPieces (position backslashes : Nat) (body : List Char) : List Piece :=
  .text (List.replicate (backslashes / 2) '\\') ::
    if backslashes % 2 = 1 then [.text ('[' :: body ++ [']'])]
    else [.tag (position + backslashes) (Tag.ofBody body)]

/-- The text before the first tag and all pieces after that, from a position
on. -/
def split (position : Nat) (cs : List Char) : List Char × List Piece :=
  match _h : tag? (cs.dropWhile isBackslash) with
  | some (body, after) =>
    let backslashes := (cs.takeWhile isBackslash).length
    let (first, rest) := split (position + backslashes + body.length + 2) after
    ([], tagPieces position backslashes body ++ .text first :: rest)
  | none =>
    match cs with
    | [] => ([], [])
    | c :: rest =>
      let (first, pieces) := split (position + 1) rest
      (c :: first, pieces)
termination_by cs.length
decreasing_by
  · exact Nat.lt_of_lt_of_le (length_tag? _h)
      (List.dropWhile_suffix isBackslash).length_le
  · exact Nat.lt_succ_self _

def pieces (cs : List Char) : List Piece :=
  let (first, rest) := split 0 cs
  .text first :: rest

def dropEscapes : List Char → List Char
  | '\\' :: '[' :: rest => '[' :: dropEscapes rest
  | c :: rest => c :: dropEscapes rest
  | [] => []

/-- The controls that are not passed on to a terminal: bell, backspace,
vertical tab, form feed and carriage return. -/
def isDropped (c : Char) : Bool :=
  [7, 8, 11, 12, 13].contains c.toNat

def shown (cs : List Char) : List Char :=
  (Emoji.replaceCodes (dropEscapes cs)).filter (!isDropped ·)

structure OpenTag where
  start : Nat
  tag : Tag
  deriving DecidableEq, Repr

structure Reading where
  shown : List Char := []
  length : Nat := 0
  opened : List OpenTag := []
  spans : List StyleSpan := []
  deriving DecidableEq, Repr

namespace Reading

def addText (r : Reading) (cs : List Char) : Reading :=
  { r with shown := cs.reverse ++ r.shown, length := r.length + cs.length }

def openTag (r : Reading) (t : Tag) : Reading :=
  { r with opened := ⟨r.length, t⟩ :: r.opened }

def endTag (r : Reading) (o : OpenTag) : Reading :=
  { r with
    opened := r.opened.erase o
    spans := ⟨o.start, r.length, o.tag.style⟩ :: r.spans }

def closeTag (r : Reading) (o : OpenTag) : Except Error Reading :=
  match o.tag.isEvent, o.tag.parameters? with
  | true, some (c :: parameters) =>
    let given := arguments (c :: parameters)
    match Literal.error? given with
    | some e =>
      .error (.event (String.ofList given) (String.ofList (c :: parameters)) e)
    | none => .ok (r.endTag o)
  | _, _ => .ok (r.endTag o)

def finish (r : Reading) : StyledText :=
  let r := r.opened.foldl endTag r
  ⟨r.shown.reverse, r.spans⟩

end Reading

def canonicalName (name : List Char) : Except Error (List Char) :=
  ((Style.canonical name).mapError .style).map String.toList

def readTag (r : Reading) (position : Nat) (t : Tag) : Except Error Reading :=
  match t.closes? with
  | none => do
    let name ← canonicalName t.name
    return r.openTag ⟨name, t.parameters?⟩
  | some [] =>
    match r.opened with
    | last :: _ => r.closeTag last
    | [] => .error (.nothingOpen position)
  | some name => do
    let name ← canonicalName name
    match r.opened.find? (·.tag.name = name) with
    | some o => r.closeTag o
    | none => throw (.notOpen t.written position)

def readPiece (r : Reading) : Piece → Except Error Reading
  | .text cs => .ok (r.addText (shown cs))
  | .tag position t => readTag r position t

def read (cs : List Char) : Except Error StyledText :=
  ((pieces cs).foldlM readPiece {}).map Reading.finish

end Markup

end Chip8.Text
