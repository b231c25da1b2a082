/-!
# Log — levels

A record has a level, and a filter lets records through down to a level.  `LevelFilter.parse?` reads
the name of a level, in letters of either case, or its number.
-/

namespace Subgraph.Log

/-- How much a record matters. -/
inductive Level where
  | error
  | warn
  | info
  | debug
  deriving DecidableEq, Repr

namespace Level

def name : Level → String
  | .error => "ERROR"
  | .warn => "WARN"
  | .info => "INFO"
  | .debug => "DEBUG"

/-- The number of a level; the less it is, the more a record matters. -/
def number : Level → Nat
  | .error => 1
  | .warn => 2
  | .info => 3
  | .debug => 4

end Level

/-- The number down to which records are let through: zero is for none, and five for all. -/
abbrev LevelFilter := Nat

namespace LevelFilter

/-- All records are let through. -/
def all : LevelFilter := 5

/-- The names of the filters, in the order of their numbers. -/
def names : List String := ["off", "error", "warn", "info", "debug", "trace"]

/-- A number as it may stand for a level: digits, perhaps after a plus sign. -/
def number? (text : List Char) : Option Nat :=
  let digits := if text.head? = some '+' then text.tail else text
  if digits ≠ [] ∧ digits.all Char.isDigit then some (Nat.ofDigitChars 10 digits 0) else none

/-- The filter of a name or a number. -/
def parse? (text : List Char) : Option LevelFilter :=
  match number? text with
  | some n => if n < names.length then some n else none
  | none => names.idxOf? (String.ofList (text.map Char.toLower))

end LevelFilter

end Subgraph.Log
