/-!
# Severity

The weight of a log record. The five named severities stand for fixed numbers;
a number without a name is shown as `Level n`.
-/

namespace Chip8.Journal

inductive Severity where
  | debug
  | info
  | warning
  | error
  | critical
  deriving DecidableEq, Repr

namespace Severity

def number : Severity → Int
  | debug => 10
  | info => 20
  | warning => 30
  | error => 40
  | critical => 50

def name : Severity → String
  | debug => "DEBUG"
  | info => "INFO"
  | warning => "WARNING"
  | error => "ERROR"
  | critical => "CRITICAL"

def all : List Severity :=
  [debug, info, warning, error, critical]

end Severity

/-- The number of a logger that leaves its level to its parent. -/
def unset : Int := 0

def levelName (n : Int) : String :=
  match Severity.all.find? (fun s => s.number = n) with
  | some s => s.name
  | none => if n = unset then "NOTSET" else "Level " ++ toString n

end Chip8.Journal
