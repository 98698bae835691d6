import Chip8.Text.Literal.Expression

/-!
# The grammar of expressions

A rule has alternatives, which are tried in turn (`Rule.productions`); a
production is a row of patterns, and what it makes of the expressions that they
read. Some rules describe mistakes. A production that is nothing but such a
rule is tried only when a text is known to be wrong.

There are no square brackets: these literals stand in tags, which such brackets
delimit.
-/

namespace Chip8.Text.Literal

inductive Rule where
  | literal
  | place
  | expressions
  | starredExpressions
  | starredExpression
  | starredElements
  | starredElement
  | element
  | naming
  | expression
  /-- An expression in which no mistakes are looked for. -/
  | soberExpression
  | disjunction
  | conjunction
  | inversion
  | comparison
  | compared
  | bitOr
  | bitXor
  | bitAnd
  | shift
  | sum
  | term
  | factor
  | power
  | awaited
  | primary
  | atom
  | quotations
  | group
  | tuple
  | set
  | table
  | entries
  | entry
  | keyAndValue
  | generator
  | setComprehension
  | tableComprehension
  | clauses
  | clause
  | yielded
  | anonymous
  | anonymousHead
  | parameters
  | plainBeforeSlash
  | defaultBeforeSlash
  | starParameters
  | tableParameter
  | plainParameter
  | defaultParameter
  | anyParameter
  | parameter
  | default
  | arguments
  | argumentList
  | keywords
  | starredArgument
  | keywordOrStarred
  | keywordOrTable
  | targets
  | targetTuple
  | target
  | memberTarget
  | targetAtom
  | targetPrimary
  | goesOn
  | wrongExpression
  | wrongCommand
  | wrongElement
  | wrongGroup
  | wrongEntries
  | wrongEntry
  | wrongComprehension
  | wrongTableComprehension
  | wrongTarget
  | wrongArguments
  | wrongKeyword
  | wrongParameters
  | defaultsBefore
  | wrongStarParameters
  | wrongTableParameter
  | wrongDefault
  deriving DecidableEq, Repr

inductive Retention where
  /-- It is read anew. -/
  | never
  | kept
  /-- What it read is kept and put at its own beginning as long as that makes
  it read more. -/
  | growing
  deriving DecidableEq, Repr

namespace Rule

def isWrong : Rule → Bool
  | wrongExpression | wrongCommand | wrongElement | wrongGroup | wrongEntries
  | wrongEntry | wrongComprehension | wrongTableComprehension | wrongTarget
  | wrongArguments | wrongKeyword | wrongParameters | wrongStarParameters
  | wrongTableParameter | wrongDefault => true
  | _ => false

def retention : Rule → Retention
  | expression | starredExpression | disjunction | conjunction | inversion
  | factor | awaited | quotations | arguments | target | memberTarget
  | wrongElement => .kept
  | bitOr | bitXor | bitAnd | shift | sum | term | primary | targetPrimary =>
    .growing
  | _ => .never

def isSober : Rule → Bool
  | soberExpression => true
  | _ => false

end Rule

inductive Pattern where
  | sign (s : String)
  | name
  | softWord
  | number
  | quotation
  | quotations
  | newline
  | finish
  | rule (r : Rule)
  | oneOf (rows : List (List Pattern))
  | optional (p : Pattern)
  | many (p : Pattern)
  | some (p : Pattern)
  | listed (p : Pattern)
  /-- Something follows, but is not read. -/
  | ahead (p : Pattern)
  /-- Something does not follow. -/
  | absent (p : Pattern)
  /-- From here on no other alternative is tried. -/
  | commit

inductive Action where
  | keep
  | build (f : List Expression → Expression)
  /-- They are a mistake, or nothing is read after all; it may matter whether
  they end between brackets. -/
  | check (f : Bool → List Expression → Option Mistake)

structure Production where
  row : List Pattern
  action : Action

namespace Production

def isWrong (a : Production) : Bool :=
  match a.row with
  | [.rule r] => r.isWrong
  | _ => false

def plain (row : List Pattern) : Production :=
  ⟨row, .keep⟩

def node (shape : Shape) (row : List Pattern) : Production :=
  ⟨row, .build (.ofParts shape)⟩

def constant (c : Constant) (row : List Pattern) : Production :=
  ⟨row, .build fun _ => .constant c⟩

def mistake (m : Mistake) (row : List Pattern) : Production :=
  ⟨row, .check fun _ _ => some m⟩

def suspect (row : List Pattern) (f : List Expression → Option Mistake) :
    Production :=
  ⟨row, .check fun _ => f⟩

end Production

namespace Rule

open Pattern Production

instance : Coe String Pattern := ⟨Pattern.sign⟩

instance : Coe Rule Pattern := ⟨Pattern.rule⟩

def openCurly : Pattern := "\x7b"

def closeCurly : Pattern := "\x7d"

def anySign (signs : List String) : Pattern :=
  oneOf (signs.map fun s => [sign s])

def operator (shape : Shape) (left : Rule) (s : String) (right : Rule) :
    Production :=
  node shape [left, s, right]

def comparedBy (signs : List String) : Production :=
  node (.compared (signs == ["in"])) [oneOf [signs.map sign ++ [rule bitOr]]]

def plainElement : Pattern :=
  oneOf [[naming], [expression, absent ":="]]

/-- Two expressions side by side are a mistake between brackets, if the first
is not meant as a command. -/
def sideBySide (inside : Bool) : List Expression → Option Mistake
  | e :: _ =>
    if e.command?.isSome then none else if inside then some .noComma else none
  | [] => none

def aboutFirst (m : String → Mistake) : List Expression → Option Mistake
  | e :: _ => some (m e.noun)
  | [] => none

def generatorBehind : List Expression → Option Mistake
  | e :: _ =>
    if 1 < (e.arguments.filter (!·.isKeyword)).length then some .bareGenerator
    else none
  | [] => none

def argumentsBehind : List Expression → Option Mistake
  | e :: _ => some (.afterKeywords (e.arguments.any (·.isKeywords)))
  | [] => none

def productions : Rule → List Production
  | literal => [plain [expressions, many newline, finish]]
  | place => [plain [starredExpressions]]
  | expressions =>
    [node .tuple [expression, some (oneOf [[",", expression]]), optional ","],
      node .tuple [expression, ","],
      plain [expression]]
  | starredExpressions =>
    [node .tuple
        [starredExpression, some (oneOf [[",", starredExpression]]),
          optional ","],
      node .tuple [starredExpression, ","],
      plain [starredExpression]]
  | starredExpression => [node .starred ["*", bitOr], plain [expression]]
  | starredElements => [plain [listed starredElement, optional ","]]
  | starredElement => [node .starred ["*", bitOr], plain [element]]
  | element =>
    [plain [naming], plain [wrongElement], plain [expression, absent ":="]]
  | naming => [node .named [name, ":=", commit, expression]]
  | expression =>
    [plain [wrongExpression],
      plain [wrongCommand],
      node .conditional [disjunction, "if", disjunction, "else", expression],
      plain [disjunction],
      plain [anonymous]]
  | soberExpression =>
    [node .conditional [disjunction, "if", disjunction, "else", expression],
      plain [disjunction],
      plain [anonymous]]
  | disjunction =>
    [node .operation [conjunction, some (oneOf [["or", conjunction]])],
      plain [conjunction]]
  | conjunction =>
    [node .operation [inversion, some (oneOf [["and", inversion]])],
      plain [inversion]]
  | inversion => [node .operation ["not", inversion], plain [comparison]]
  | comparison => [node .comparison [bitOr, some compared], plain [bitOr]]
  | compared =>
    [["=="], ["!="], ["<="], ["<"], [">="], [">"], ["not", "in"], ["in"],
      ["is", "not"], ["is"]].map comparedBy
  | bitOr => [operator .operation bitOr "|" bitXor, plain [bitXor]]
  | bitXor => [operator .operation bitXor "^" bitAnd, plain [bitAnd]]
  | bitAnd => [operator .operation bitAnd "&" shift, plain [shift]]
  | shift =>
    [operator .operation shift "<<" sum, operator .operation shift ">>" sum,
      plain [sum]]
  | sum =>
    [operator .sum sum "+" term, operator .sum sum "-" term, plain [term]]
  | term =>
    ["*", "/", "//", "%", "@"].map (operator .operation term · factor) ++
      [plain [factor]]
  | factor =>
    [node .signed ["+", factor], node .signed ["-", factor],
      node .operation ["~", factor], plain [power]]
  | power => [operator .operation awaited "**" factor, plain [awaited]]
  | awaited => [node .awaited ["await", primary], plain [primary]]
  | primary =>
    [node .member [primary, ".", name],
      node .call [primary, generator],
      node .call [primary, "(", optional arguments, ")"],
      plain [atom]]
  | atom =>
    [plain [name],
      constant (.boolean true) ["True"],
      constant (.boolean false) ["False"],
      constant .none ["None"],
      plain [ahead quotation, quotations],
      plain [number],
      plain [ahead "(", oneOf [[tuple], [group], [generator]]],
      plain [ahead openCurly, oneOf [[table], [set], [tableComprehension],
        [setComprehension]]],
      constant .ellipsis ["..."]]
  | quotations => [plain [Pattern.quotations]]
  | group =>
    [plain ["(", oneOf [[yielded], [element]], ")"], plain [wrongGroup]]
  | tuple =>
    [node .tuple
      ["(", optional (oneOf [[starredElement, ",", optional starredElements]]),
        ")"]]
  | set => [node .set [openCurly, starredElements, closeCurly]]
  | table =>
    [node .table [openCurly, optional entries, closeCurly],
      plain [openCurly, wrongEntries, closeCurly]]
  | entries => [plain [listed entry, optional ","]]
  | entry => [node .unpacked ["**", bitOr], plain [keyAndValue]]
  | keyAndValue => [node .entry [expression, ":", expression]]
  | generator =>
    [node .generator ["(", plainElement, clauses, ")"],
      plain [wrongComprehension]]
  | setComprehension =>
    [node .setComprehension [openCurly, element, clauses, closeCurly],
      plain [wrongComprehension]]
  | tableComprehension =>
    [node .tableComprehension [openCurly, keyAndValue, clauses, closeCurly],
      plain [wrongTableComprehension]]
  | clauses => [plain [some clause]]
  | clause =>
    [node .clause ["async", "for", targets, "in", commit, disjunction,
        many (oneOf [["if", disjunction]])],
      node .clause ["for", targets, "in", commit, disjunction,
        many (oneOf [["if", disjunction]])],
      plain [wrongTarget]]
  | yielded =>
    [node .yielded ["yield", "from", expression],
      node .yielded ["yield", optional starredExpressions]]
  | anonymous =>
    [node .anonymous ["lambda", optional anonymousHead, ":", expression]]
  | anonymousHead => [plain [wrongParameters], plain [parameters]]
  | parameters =>
    [plain [plainBeforeSlash, many plainParameter, many defaultParameter,
        optional starParameters],
      plain [defaultBeforeSlash, many defaultParameter,
        optional starParameters],
      plain [some plainParameter, many defaultParameter,
        optional starParameters],
      plain [some defaultParameter, optional starParameters],
      plain [starParameters]]
  | plainBeforeSlash =>
    [plain [some plainParameter, "/", ","],
      plain [some plainParameter, "/", ahead ":"]]
  | defaultBeforeSlash =>
    [plain [many plainParameter, some defaultParameter, "/", ","],
      plain [many plainParameter, some defaultParameter, "/", ahead ":"]]
  | starParameters =>
    [plain [wrongStarParameters],
      plain ["*", plainParameter, many anyParameter, optional tableParameter],
      plain ["*", ",", some anyParameter, optional tableParameter],
      plain [tableParameter]]
  | tableParameter =>
    [plain [wrongTableParameter], plain ["**", plainParameter]]
  | plainParameter => [plain [parameter, ","], plain [parameter, ahead ":"]]
  | defaultParameter =>
    [plain [parameter, default, ","], plain [parameter, default, ahead ":"]]
  | anyParameter =>
    [plain [parameter, optional default, ","],
      plain [parameter, optional default, ahead ":"]]
  | parameter => [plain [name]]
  | default => [plain ["=", expression], plain [wrongDefault]]
  | arguments =>
    [plain [argumentList, optional ",", ahead ")"], plain [wrongArguments]]
  | argumentList =>
    [node .arguments
        [listed (oneOf [[starredArgument], [plainElement, absent "="]]),
          optional (oneOf [[",", keywords]])],
      node .arguments [keywords]]
  | keywords =>
    [plain [listed keywordOrStarred, ",", listed keywordOrTable],
      plain [listed keywordOrStarred],
      plain [listed keywordOrTable]]
  | starredArgument => [node .starred ["*", expression]]
  | keywordOrStarred =>
    [plain [wrongKeyword],
      node .keyword [name, "=", expression],
      plain [starredArgument]]
  | keywordOrTable =>
    [plain [wrongKeyword],
      node .keyword [name, "=", expression],
      node .keywords ["**", expression]]
  | targets =>
    [plain [target, absent ","],
      plain [target, many (oneOf [[",", target]]), optional ","]]
  | targetTuple =>
    [plain [target, some (oneOf [[",", target]]), optional ","],
      plain [target, ","]]
  | target => [plain ["*", oneOf [[absent "*", target]]], plain [memberTarget]]
  | memberTarget =>
    [plain [targetPrimary, ".", name, absent goesOn], plain [targetAtom]]
  | targetAtom =>
    [plain [name],
      plain ["(", memberTarget, ")"],
      plain ["(", optional targetTuple, ")"]]
  | targetPrimary =>
    [plain [targetPrimary, ".", name, ahead goesOn],
      plain [targetPrimary, generator, ahead goesOn],
      plain [targetPrimary, "(", optional arguments, ")", ahead goesOn],
      plain [atom, ahead goesOn]]
  | goesOn => [plain ["("], plain ["."]]
  | wrongExpression =>
    [⟨[absent (oneOf [[name, quotation], [softWord]]), disjunction,
      soberExpression],
        .check sideBySide⟩,
      mistake .noElse
        [disjunction, "if", disjunction, absent (anySign ["else", ":"])]]
  | wrongCommand =>
    [suspect [name, absent "(", starredExpressions] fun es =>
      (es.head?.bind (·.command?)).map .command]
  | wrongElement =>
    [suspect [expression, ":=", expression] (aboutFirst .namedWith),
      mistake .equalsAfterName
        [name, "=", bitOr, absent (anySign ["=", ":="])],
      suspect
        [absent (oneOf [[tuple], [generator], ["True"], ["None"], ["False"]]),
          bitOr, "=", bitOr, absent (anySign ["=", ":="])]
        (aboutFirst .equalsAfter)]
  | wrongGroup =>
    [mistake .starredGroup ["(", starredArgument, ")"],
      mistake .doubleStarredGroup ["(", "**", expression, ")"]]
  | wrongEntries =>
    [plain [listed entry, ",", wrongEntry],
      mistake .starredValue [expression, ":", "*", bitOr],
      mistake .noValue [expression, ":", ahead (anySign ["\x7d", ","])]]
  | wrongEntry =>
    [mistake .noColon [expression, absent ":"],
      mistake .starredValue [expression, ":", "*", bitOr],
      mistake .noValue [expression, ":", ahead (anySign ["\x7d", ","])]]
  | wrongComprehension =>
    [mistake .unpackedComprehension
        [anySign ["(", "\x7b"], starredArgument, clauses],
      mistake .bareTarget
        [openCurly, starredElement, ",", starredElements, clauses],
      mistake .bareTarget [openCurly, starredElement, ",", clauses]]
  | wrongTableComprehension =>
    [mistake .unpackedTable [openCurly, "**", bitOr, clauses, closeCurly]]
  | wrongTarget =>
    [suspect [optional "async", "for", starredExpressions] fun es =>
      (es.head?.bind (·.unassignable?)).map (.assign ·.noun)]
  | wrongArguments =>
    [mistake .starredAfterKeywords [argumentList, ",", "*"],
      mistake .bareGenerator
        [expression, clauses, ",",
          optional (oneOf [[argumentList], [expression, clauses]])],
      mistake .equalsAfterName [name, "=", expression, clauses],
      suspect [argumentList, clauses] generatorBehind,
      mistake .bareGenerator [argumentList, ",", expression, clauses],
      suspect [argumentList, ",", argumentList] argumentsBehind]
  | wrongKeyword =>
    [mistake (.assign "True") ["True", "="],
      mistake (.assign "False") ["False", "="],
      mistake (.assign "None") ["None", "="],
      mistake .equalsAfterName [name, "=", expression, clauses],
      mistake .keywordAssignment
        [absent (oneOf [[name, "="]]), expression, "="]]
  | wrongParameters =>
    [mistake .defaultOrder
        [many plainParameter, defaultsBefore, plainParameter],
      mistake .bracketedParameters
        [many plainParameter, "(", listed parameter, optional ",", ")"],
      mistake .nothingBeforeSlash ["/", ","],
      mistake .secondSlash
        [oneOf [[plainBeforeSlash], [defaultBeforeSlash]],
          many anyParameter, "/"],
      mistake .slashAfterStar
        [optional (oneOf [[plainBeforeSlash], [defaultBeforeSlash]]),
          many anyParameter, "*", oneOf [[","], [plainParameter]],
          many anyParameter, "/"],
      mistake .noCommaAfterSlash [some anyParameter, "/", "*"]]
  | defaultsBefore =>
    [plain [defaultBeforeSlash], plain [some defaultParameter]]
  | wrongStarParameters =>
    [mistake .nothingAfterStar
        ["*", oneOf [[":"], [",", anySign [":", "**"]]]],
      mistake .starDefault ["*", parameter, "="],
      mistake .secondStar
        ["*", oneOf [[plainParameter], [","]], many anyParameter, "*",
          oneOf [[plainParameter], [","]]]]
  | wrongTableParameter =>
    [mistake .doubleStarDefault ["**", parameter, "="],
      mistake .afterDoubleStar ["**", parameter, ",", parameter],
      mistake .afterDoubleStar
        ["**", parameter, ",", anySign ["*", "**", "/"]]]
  | wrongDefault => [mistake .noDefault ["=", ahead (anySign [")", ","])]]

end Rule

end Chip8.Text.Literal
