import Chip8.Text.DecimalDigit
import Chip8.Text.Quoted

/-!
# The grammar of a command line

The arguments of a command are options and operands. An option has one or more
names and either stands alone or takes a value. A long name may be cut short as
long as one option only is meant, and may be followed by `=` and the value; a
short name may be followed by `=` or directly by the value, or by further short
options if it takes none. After `--` everything is an operand; where `--`
stands in place of a value, the option is left without one. An argument that
looks like a negative number or holds a blank is an operand unless it names an
option.

Reading a command line takes two passes. The first decides for each argument
whether it is an option (`classify`), and may find a name that is cut too
short. The second collects what each option and operand is given (`Reading`),
in order, and ends at the first argument that does not fit. Arguments that
belong to nothing are set aside as extras.
-/

namespace Chip8.CommandLine

structure OptionSpec (ι : Type) where
  id : ι
  /-- All names, with their dashes. -/
  names : List String
  takesValue : Bool

inductive Operands where
  | nothing
  | one
  /-- One operand, together with all arguments after it, whatever they are. -/
  | rest
  deriving DecidableEq, Repr

inductive GrammarError where
  | ambiguous (given : String) (candidates : List String)
  | missingValue (option : String)
  | needlessValue (option value : String)
  deriving DecidableEq, Repr

def GrammarError.message : GrammarError → String
  | .ambiguous given candidates =>
    "ambiguous option: " ++ given ++ " could match " ++
      ", ".intercalate candidates
  | .missingValue option => "argument " ++ option ++ ": expected one argument"
  | .needlessValue option value =>
    "argument " ++ option ++ ": ignored explicit argument " ++
      Text.quoted value

inductive Finding (ι : Type) where
  /-- An option, with its value if it takes one and was not left without. -/
  | option (id : ι) (value? : Option String)
  /-- The operand; more than one argument if it takes the rest. -/
  | operand (args : List String)

/-- An argument that names an option, or looks like one. -/
structure OptionMatch (ι : Type) where
  /-- The option; `none` if there is none of that name. -/
  spec? : Option (OptionSpec ι)
  name : String
  /-- What follows the name, without the equals sign between. -/
  value? : Option String

inductive Token (ι : Type) where
  | option (arg : String) (m : OptionMatch ι)
  | plain (arg : String)
  | separator

/-- A command line that was read: what was found, what belongs to nothing, and
the fault that ended the reading, if any. -/
structure Reading (ι : Type) where
  findings : List (Finding ι) := []
  extras : List String := []
  fault? : Option GrammarError := none

variable {ι : Type}

def OptionSpec.title (s : OptionSpec ι) : String :=
  "/".intercalate s.names

def namedOptions (specs : List (OptionSpec ι)) :
    List (String × OptionSpec ι) :=
  specs.flatMap fun s => s.names.map fun n => (n, s)

def findOption? (specs : List (OptionSpec ι)) (name : String) :
    Option (OptionSpec ι) :=
  (namedOptions specs).lookup name

/-- A text as what stands before its first equals sign and what stands after;
`none` if it has no equals sign. -/
def splitEquals (cs : List Char) : List Char × Option (List Char) :=
  match cs.dropWhile (· ≠ '=') with
  | [] => (cs, none)
  | _ :: value => (cs.takeWhile (· ≠ '='), some value)

/-- Whether a text is a negative number: a dash and decimal digits, among which
a point may stand in front of at least one; an end of line may follow. -/
def looksNegative (arg : List Char) : Bool :=
  let cs := if arg.getLast? = some '\n' then arg.dropLast else arg
  match cs with
  | '-' :: number =>
    match number.dropWhile Text.isDecimal with
    | [] => !number.isEmpty
    | '.' :: places => !places.isEmpty && places.all Text.isDecimal
    | _ => false
  | _ => false

/-- The options that an argument with two dashes could mean, its name being cut
short. -/
def longCandidates (specs : List (OptionSpec ι)) (cs : List Char) :
    List (OptionMatch ι) :=
  let (name, value?) := splitEquals cs
  (namedOptions specs).filterMap fun (n, s) =>
    if name.isPrefixOf n.toList then
      some ⟨s, n, value?.map String.ofList⟩
    else none

/-- The options that an argument with one dash could mean: a short name with
something behind it, or a longer name cut short. -/
def shortCandidates (specs : List (OptionSpec ι)) (cs : List Char) :
    List (OptionMatch ι) :=
  (namedOptions specs).filterMap fun (n, s) =>
    if n.toList = cs.take 2 then some ⟨s, n, some (String.ofList (cs.drop 2))⟩
    else if cs.isPrefixOf n.toList then some ⟨s, n, none⟩
    else none

def candidates (specs : List (OptionSpec ι)) (cs : List Char) :
    List (OptionMatch ι) :=
  if cs.take 2 = ['-', '-'] then longCandidates specs cs
  else shortCandidates specs cs

/-- The option that an argument means exactly, with or without a value after an
equals sign. -/
def exactOption? (specs : List (OptionSpec ι)) (arg : String) :
    Option (OptionMatch ι) :=
  match findOption? specs arg with
  | some s => some ⟨s, arg, none⟩
  | none =>
    match splitEquals arg.toList with
    | (_, none) => none
    | (name, some value) =>
      (findOption? specs (String.ofList name)).map fun s =>
        ⟨s, String.ofList name, some (String.ofList value)⟩

def classifyOne (specs : List (OptionSpec ι)) (arg : String) :
    Except GrammarError (Token ι) :=
  let cs := arg.toList
  if cs.head? ≠ some '-' then .ok (.plain arg)
  else
    match exactOption? specs arg with
    | some m => .ok (.option arg m)
    | none =>
      if cs.length = 1 then .ok (.plain arg)
      else
        match candidates specs cs with
        | [m] => .ok (.option arg m)
        | [] =>
          if looksNegative cs || cs.contains ' ' then .ok (.plain arg)
          else .ok (.option arg ⟨none, arg, none⟩)
        | several => .error (.ambiguous arg (several.map (·.name)))

def classify (specs : List (OptionSpec ι)) :
    List String → Except GrammarError (List (Token ι))
  | [] => .ok []
  | arg :: rest =>
    if arg = "--" then .ok (.separator :: rest.map .plain)
    else do
      let token ← classifyOne specs arg
      let tokens ← classify specs rest
      return token :: tokens

def Token.arg : Token ι → String
  | .option arg _ => arg
  | .plain arg => arg
  | .separator => "--"

def Finding.valued (id : ι) (value : String) : Finding ι :=
  .option id (if value = "--" then none else some value)

/-- What one argument holds: the options found, the argument itself if it names
no option, and the option that still needs a value from the next argument. -/
structure Cluster (ι : Type) where
  found : List (Finding ι) := []
  extra? : Option String := none
  pending? : Option (OptionSpec ι) := none

def Cluster.ofSpec (s : OptionSpec ι) : Cluster ι :=
  if s.takesValue then { pending? := some s }
  else { found := [.option s.id none] }

def Cluster.cons (f : Finding ι) (c : Cluster ι) : Cluster ι :=
  { c with found := f :: c.found }

/-- Reads an option with what follows its name in the same argument: a value,
or further short options if the option is a short one without a value. -/
def readCluster (specs : List (OptionSpec ι)) (s : OptionSpec ι)
    (short : Bool) :
    List Char → Except GrammarError (Cluster ι)
  | [] =>
    if s.takesValue then .ok { found := [.valued s.id ""] }
    else .error (.needlessValue s.title "")
  | c :: rest =>
    if s.takesValue then
      .ok { found := [.valued s.id (String.ofList (c :: rest))] }
    else
      match
        if short then findOption? specs (String.ofList ['-', c]) else none
      with
      | none => .error (.needlessValue s.title (String.ofList (c :: rest)))
      | some next =>
        if rest.isEmpty then
          .ok ((Cluster.ofSpec next).cons (.option s.id none))
        else
          (readCluster specs next true rest).map (·.cons (.option s.id none))

/-- Reads an option without the value that may stand in the next argument. -/
def readOption (specs : List (OptionSpec ι)) (m : OptionMatch ι)
    (arg : String) :
    Except GrammarError (Cluster ι) :=
  match m.spec?, m.value? with
  | none, _ => .ok { extra? := some arg }
  | some s, none => .ok (Cluster.ofSpec s)
  | some s, some value =>
    let short := (m.name.toList.drop 1).head? ≠ some '-'
    readCluster specs s short value.toList

def Reading.prepend (findings : List (Finding ι)) (extras : List String)
    (r : Reading ι) : Reading ι :=
  { r with findings := findings ++ r.findings, extras := extras ++ r.extras }

/-- The operand that arguments make; a separator in front of it or directly
after it is dropped, unless the operand takes the rest. -/
def readOperand (operands : Operands) (tokens : List (Token ι)) :
    Option (List String × List (Token ι)) :=
  match operands, tokens with
  | .nothing, _ => none
  | .rest, .separator :: .plain _ :: _ | .rest, .plain _ :: _ =>
    some (tokens.map Token.arg, [])
  | .one, .separator :: .plain arg :: rest => some ([arg], rest)
  | .one, .plain arg :: .separator :: rest => some ([arg], rest)
  | .one, .plain arg :: rest => some ([arg], rest)
  | _, _ => none

theorem length_readOperand {operands : Operands} {tokens : List (Token ι)}
    {args : List String} {rest : List (Token ι)}
    (h : readOperand operands tokens = some (args, rest)) :
    rest.length < tokens.length := by
  unfold readOperand at h
  split at h <;> cases h <;> simp only [List.length_cons, List.length_nil] <;>
    omega

/-- Collects findings and extras; `operands` says what may still come besides
options. -/
def collect (specs : List (OptionSpec ι)) (operands : Operands)
    (tokens : List (Token ι)) : Reading ι :=
  match tokens with
  | [] => {}
  | .option arg m :: rest =>
    match readOption specs m arg with
    | .error e => { fault? := some e }
    | .ok c =>
      match c.pending? with
      | none => (collect specs operands rest).prepend c.found c.extra?.toList
      | some s =>
        match rest with
        | .plain value :: rest =>
          (collect specs operands rest).prepend
            (c.found ++ [.valued s.id value]) c.extra?.toList
        | _ => { fault? := some (.missingValue s.title) }
  | token :: rest =>
    match _h : readOperand operands (token :: rest) with
    | some (args, rest') =>
      (collect specs .nothing rest').prepend [.operand args] []
    | none => (collect specs operands rest).prepend [] [token.arg]
termination_by tokens.length
decreasing_by
  · exact Nat.lt_succ_self _
  · simp only [List.length_cons]; omega
  · exact length_readOperand _h
  · exact Nat.lt_succ_self _

def read (specs : List (OptionSpec ι)) (operands : Operands)
    (args : List String) :
    Except GrammarError (Reading ι) :=
  (classify specs args).map (collect specs operands)

end Chip8.CommandLine
