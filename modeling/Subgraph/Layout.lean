import Subgraph.Text.Blank
import Subgraph.Text.Lines

/-!
# Layout — indentation of the generated source

The generators write loosely laid out lines; the layout indents them.  A line keeps its text
between its first and last character that is not blank.  Its indentation is two spaces for each
earlier line that still holds an open bracket once the closing brackets the line starts with are
matched, so a line that opens several brackets adds one level.  Runs of blank lines become one,
and those at either end are dropped.

* `brackets` reads the brackets of a line, leaving out those inside quotes and after `//`.
* `place` walks the lines with the stack of the lines that hold an open bracket, innermost first.
* `format` is the text of the placed lines.

A closing bracket matches any opening one.  The layout fails when a closing bracket has no
opening one before it (`unbalanced`), and at the end when brackets are left open (`unclosed`).
-/

namespace Subgraph.Layout

inductive Bracket where
  | opening
  | closing
  deriving DecidableEq, Repr

/-- Why a source cannot be laid out. -/
inductive Problem where
  /-- A closing bracket on this line, counted from one, has no opening bracket before it. -/
  | unbalanced (line : Nat)
  /-- So many brackets are open at the end. -/
  | unclosed (count : Nat)
  deriving DecidableEq, Repr

def Problem.message : Problem → String
  | .unbalanced line => s!"unbalanced closing bracket on line {line}"
  | .unclosed count => s!"{count} unclosed bracket(s) at end of input"

/-! ### The brackets of a line -/

def bracket? (c : Char) : Option Bracket :=
  if c = '\x7b' || c = '(' || c = '[' then some .opening
  else if c = '\x7d' || c = ')' || c = ']' then some .closing
  else none

def isQuote (c : Char) : Bool := c == '"' || c == '\x27' || c == '\x60'

/-- What the character before the rest of a line leaves the reader in. -/
inductive Mode where
  | code
  /-- Inside a literal that this quote ends. -/
  | quoted (quote : Char)
  /-- Inside a literal, after a backslash. -/
  | escaped (quote : Char)
  deriving DecidableEq, Repr

/-- The brackets of the rest of a line, outside quotes and before a comment. -/
def bracketsFrom : Mode → List Char → List Bracket
  | _, [] => []
  | .code, '/' :: '/' :: _ => []
  | .code, c :: rest =>
    if isQuote c then bracketsFrom (.quoted c) rest
    else match bracket? c with
      | some b => b :: bracketsFrom .code rest
      | none => bracketsFrom .code rest
  | .quoted q, c :: rest =>
    if c = '\\' then bracketsFrom (.escaped q) rest
    else if c = q then bracketsFrom .code rest
    else bracketsFrom (.quoted q) rest
  | .escaped q, _ :: rest => bracketsFrom (.quoted q) rest

/-- The brackets of a line, outside quotes and before a comment. -/
def brackets (line : List Char) : List Bracket := bracketsFrom .code line

/-- How many closing brackets a line starts with, blank characters between them left out. -/
def leadingClosers (line : List Char) : Nat :=
  ((line.filter fun c => !Text.isBlank c).takeWhile fun c => bracket? c = some .closing).length

/-! ### Placing the lines -/

/-- A line of the result: whether a blank line stands before it, its level, and its text. -/
structure Placed where
  gap : Bool
  level : Nat
  text : List Char
  deriving DecidableEq, Repr

/-- The stack after the brackets of line `n`; none when a closing bracket finds it empty.  The
stack holds the line of every open bracket, innermost first. -/
def matchBrackets (n : Nat) : List Bracket → List Nat → Option (List Nat)
  | [], stack => some stack
  | .opening :: bs, stack => matchBrackets n bs (n :: stack)
  | .closing :: _, [] => none
  | .closing :: bs, _ :: stack => matchBrackets n bs stack

/-- The number of distinct lines on a stack, in which equal lines stand together. -/
def levels : List Nat → Nat
  | [] => 0
  | [_] => 1
  | m :: n :: stack => if m = n then levels (n :: stack) else levels (n :: stack) + 1

/-- Where the walk over the lines stands. -/
structure State where
  /-- The number of lines passed. -/
  passed : Nat := 0
  /-- The line of every open bracket, innermost first. -/
  stack : List Nat := []
  /-- A line has been placed. -/
  started : Bool := false
  /-- A blank line was passed since the last placed one. -/
  gap : Bool := false
  deriving DecidableEq, Repr

/-- One line that is not blank, at its place. -/
def placeLine (s : State) (text : List Char) : Except Problem (Placed × State) :=
  let bs := brackets text
  let closers := leadingClosers text
  match matchBrackets s.passed (bs.take closers) s.stack with
  | none => .error (.unbalanced (s.passed + 1))
  | some stack =>
    match matchBrackets s.passed (bs.drop closers) stack with
    | none => .error (.unbalanced (s.passed + 1))
    | some stack' =>
      .ok (⟨s.gap, levels stack, text⟩,
        ⟨s.passed + 1, stack', true, false⟩)

/-- The lines of a source at their places. -/
def place (s : State) : List (List Char) → Except Problem (List Placed)
  | [] => if s.stack = [] then .ok [] else .error (.unclosed s.stack.length)
  | line :: rest =>
    match Text.trim line with
    | [] => place { s with passed := s.passed + 1, gap := s.started } rest
    | text => do
      let (placed, s) ← placeLine s text
      return placed :: (← place s rest)

/-- A placed line as text. -/
def Placed.render (p : Placed) : List Char :=
  (if p.gap then ['\n'] else []) ++ List.replicate (2 * p.level) ' ' ++ p.text ++ ['\n']

/-- A source laid out. -/
def formatChars (source : List Char) : Except Problem (List Char) := do
  return (← place {} (Text.lines source)).flatMap Placed.render

/-- A source laid out. -/
def format (source : String) : Except Problem String := do
  return String.ofList (← formatChars source.toList)

end Subgraph.Layout
