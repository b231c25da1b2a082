import Subgraph.Yaml.Character
import Subgraph.Yaml.Token

/-!
# Yaml — scalars of whole lines

A block scalar consists of the lines below its header that are indented far enough.  The header says
whether line ends are kept or folded, what becomes of the last ones, and perhaps the indentation; if
it does not, the indentation is that of the first lines.

* `Header.read?` reads a header up to the end of its line.
* `readBlock` reads the text of a scalar from the lines that follow, and counts the characters that
  belong to it.
-/

namespace Subgraph.Yaml

/-- What becomes of the line ends at the end of a block scalar. -/
inductive Chomping where
  | strip
  /-- One is kept. -/
  | clip
  | keep
  deriving DecidableEq, Repr, Inhabited

/-- The header of a block scalar, behind its first character. -/
structure Header where
  chomping : Chomping
  /-- The indentation relative to the block around, if it is given. -/
  indent? : Option Nat
  deriving DecidableEq, Repr

namespace Header

def chomping? : Char → Option Chomping
  | '+' => some .keep
  | '-' => some .strip
  | _ => none

/-- A digit that gives an indentation. -/
def indentDigit? (c : Char) : Option Nat :=
  if '1' ≤ c ∧ c ≤ '9' then some (c.toNat - '0'.toNat) else none

/-- The indicators of a header, in either order, and what follows them.  An indentation of zero is
an error. -/
def indicators? : List Char → Option (Header × List Char)
  | a :: b :: rest =>
    match chomping? a, indentDigit? a with
    | some chomping, _ =>
      if b = '0' then none
      else match indentDigit? b with
        | some n => some (⟨chomping, some n⟩, rest)
        | none => some (⟨chomping, none⟩, b :: rest)
    | none, some n =>
      match chomping? b with
      | some chomping => some (⟨chomping, some n⟩, rest)
      | none => some (⟨.clip, some n⟩, b :: rest)
    | none, none => if a = '0' then none else some (⟨.clip, none⟩, a :: b :: rest)
  | [a] =>
    match chomping? a, indentDigit? a with
    | some chomping, _ => some (⟨chomping, none⟩, [])
    | none, some n => some (⟨.clip, some n⟩, [])
    | none, none => if a = '0' then none else some (⟨.clip, none⟩, [a])
  | [] => some (⟨.clip, none⟩, [])

/-- A header from behind its first character, and the lines below it. -/
def read? (text : List Char) : Option (Header × List Char) := do
  let (header, rest) ← indicators? text
  return (header, ← afterLine? rest)

end Header

/-- A line and what ends it; the end of the text ends a line too. -/
structure Line where
  text : List Char
  ending : Option Char
  deriving DecidableEq, Repr

namespace Line

/-- The lines of a text whose first line begins with `start`, given in reverse. -/
def ofTextFrom (start : List Char) : List Char → List Line
  | [] => [⟨start.reverse, none⟩]
  | c :: rest =>
    if isBreak c then ⟨start.reverse, some c⟩ :: ofTextFrom [] rest
    else ofTextFrom (c :: start) rest

def ofText (text : List Char) : List Line := ofTextFrom [] text

/-- The number of spaces at the start of a line. -/
def margin (l : Line) : Nat := (l.text.takeWhile (· == ' ')).length

/-- The line has no characters but spaces. -/
def isEmpty (l : Line) : Bool := l.margin == l.text.length

/-- A tab stands behind the spaces at the start of a line. -/
def hasTab (l : Line) : Bool := (l.text.drop l.margin).head? == some '\t'

end Line

/-- The largest margin of the lines up to the first that is not empty; a tab there is an error. -/
def leadingMargin? : List Line → Option Nat
  | [] => some 0
  | l :: rest =>
    if l.hasTab then none
    else if l.isEmpty ∧ l.ending.isSome then (leadingMargin? rest).map (max l.margin)
    else some l.margin

/-- What has been read of a block scalar. -/
structure BlockState where
  /-- The text up to the last line end. -/
  text : List Char := []
  /-- The end of the last line with text. -/
  lineEnd : Option Char := none
  /-- The ends of the empty lines since then. -/
  emptyEnds : List Char := []
  /-- The last line with text began with a space or a tab. -/
  startsBlank : Bool := false
  /-- The number of characters passed. -/
  passed : Nat := 0
  deriving DecidableEq, Repr

namespace BlockState

/-- The text with the line ends before a line of text; `blank` says that the line begins with a
space or a tab. -/
def joined (folds : Bool) (s : BlockState) (blank : Bool) : List Char :=
  if folds && s.lineEnd == some '\n' && !s.startsBlank && !blank then
    if s.emptyEnds = [] then s.text ++ [' '] else s.text ++ s.emptyEnds
  else s.text ++ s.lineEnd.toList ++ s.emptyEnds

/-- The whole text of the scalar. -/
def finished (chomping : Chomping) (s : BlockState) : List Char :=
  match chomping with
  | .strip => s.text
  | .clip => s.text ++ s.lineEnd.toList
  | .keep => s.text ++ s.lineEnd.toList ++ s.emptyEnds

end BlockState

/-- The state after the lines of a scalar with this indentation. -/
def readLines (folds : Bool) (indent : Nat) (s : BlockState) : List Line → Option BlockState
  | [] => some s
  | l :: rest =>
    let margin := min indent l.margin
    if margin < indent ∧ l.hasTab then none
    else if margin = l.text.length then
      match l.ending with
      | some c =>
        readLines folds indent
          { s with emptyEnds := s.emptyEnds ++ [c], passed := s.passed + margin + 1 } rest
      | none => some { s with passed := s.passed + margin }
    else if margin < indent then some { s with passed := s.passed + margin }
    else
      let shown := l.text.drop margin
      let blank := (shown.head?.map isSpace).getD false
      let s : BlockState := {
        text := s.joined folds blank ++ shown
        lineEnd := l.ending
        emptyEnds := []
        startsBlank := blank
        passed := s.passed + l.text.length + l.ending.toList.length }
      if l.ending.isSome then readLines folds indent s rest else some s

/-- The text of a block scalar from the line below its header on, and the number of characters it
takes.  The block around it has the indentation `outer`, which is -1 for none. -/
def readBlock (folds : Bool) (header : Header) (outer : Int) (text : List Char) :
    Option (List Char × Nat) := do
  let lines := Line.ofText text
  let indent ← match header.indent? with
    | some n => some (max outer 0 + n).toNat
    | none => (leadingMargin? lines).map fun margin => max margin (max (outer + 1).toNat 1)
  let s ← readLines folds indent {} lines
  return (s.finished header.chomping, s.passed)

end Subgraph.Yaml
