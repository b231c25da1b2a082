import Subgraph.Decimal
import Subgraph.Text.Pieces
import Subgraph.Text.Shown

/-!
# Semver — semantic versions

A semantic version is three numbers with points between them, perhaps with identifiers of a
pre-release behind a hyphen, and perhaps with others behind a plus sign that tell of the build.
`Semver.parse` reads one or says what is wrong first.
-/

namespace Subgraph

/-- A semantic version. -/
structure Semver where
  major : Nat
  minor : Nat
  patch : Nat
  /-- The identifiers behind the hyphen. -/
  preRelease : List String
  /-- The identifiers behind the plus sign. -/
  build : List String
  deriving DecidableEq, Repr

namespace Semver

/-- The parts of a version. -/
inductive Part where
  | major
  | minor
  | patch
  | preRelease
  | build
  deriving DecidableEq, Repr

def Part.label : Part → String
  | .major => "major version number"
  | .minor => "minor version number"
  | .patch => "patch version number"
  | .preRelease => "pre-release identifier"
  | .build => "build metadata"

/-- What keeps a text from being a version. -/
inductive Problem where
  | empty
  /-- The text ends where a part or what follows it should be. -/
  | ended (part : Part)
  /-- A character stands where a part should be. -/
  | instead (part : Part) (c : Char)
  /-- A character follows a part. -/
  | behind (part : Part) (c : Char)
  | leadingZero (part : Part)
  | tooLarge (part : Part)
  | emptyIdentifier (part : Part)
  deriving DecidableEq, Repr

def Problem.message : Problem → String
  | .empty => "empty string, expected a semver version"
  | .ended part => s!"unexpected end of input while parsing {part.label}"
  | .instead part c => s!"unexpected character {Text.shownChar c} while parsing {part.label}"
  | .behind part c => s!"unexpected character {Text.shownChar c} after {part.label}"
  | .leadingZero part => s!"invalid leading zero in {part.label}"
  | .tooLarge part => s!"value of {part.label} exceeds u64::MAX"
  | .emptyIdentifier part => s!"empty identifier segment in {part.label}"

/-- A number of 64 bits, and what follows it. -/
def readNumber (part : Part) (text : List Char) : Except Problem (Nat × List Char) :=
  match text.takeWhile Char.isDigit, text.dropWhile Char.isDigit with
  | [], [] => .error (.ended part)
  | [], c :: _ => .error (.instead part c)
  | '0' :: _ :: _, _ => .error (.leadingZero part)
  | digits, rest =>
    let n := Decimal.digitsValue digits
    if n < twoTo 64 then .ok (n, rest) else .error (.tooLarge part)

/-- What follows the point behind a part. -/
def readPoint (part : Part) : List Char → Except Problem (List Char)
  | '.' :: rest => .ok rest
  | c :: _ => .error (.behind part c)
  | [] => .error (.ended part)

def isIdentifierChar (c : Char) : Bool := c.isAlphanum || c == '-'

/-- What is wrong with an identifier; among those of a pre-release a number may not begin with a
zero too many. -/
def identifierProblem? (part : Part) (identifier : List Char) : Option Problem :=
  match identifier with
  | [] => some (.emptyIdentifier part)
  | '0' :: c :: rest =>
    if part = .preRelease ∧ (c :: rest).all Char.isDigit then some (.leadingZero part) else none
  | _ => none

/-- The identifiers of a part, with points between them, and what follows them. -/
def readIdentifiers (part : Part) (text : List Char) : Except Problem (List String × List Char) :=
  let isPart := fun c => isIdentifierChar c || c == '.'
  let identifiers := Text.pieces '.' (text.takeWhile isPart)
  match identifiers.findSome? (identifierProblem? part) with
  | some problem => .error problem
  | none => .ok (identifiers.map String.ofList, text.dropWhile isPart)

/-- The identifiers behind a mark; none without it. -/
def readBehind (mark : Char) (part : Part) (text : List Char) :
    Except Problem (List String × List Char) :=
  match text with
  | c :: rest => if c = mark then readIdentifiers part rest else .ok ([], text)
  | [] => .ok ([], [])

/-- The last part that there is of a version with these identifiers. -/
def lastPart (preRelease build : List String) : Part :=
  if build ≠ [] then .build else if preRelease ≠ [] then .preRelease else .patch

/-- The version that a text is. -/
def parse (text : String) : Except Problem Semver := do
  if text = "" then throw .empty
  let (major, rest) ← readNumber .major text.toList
  let (minor, rest) ← readNumber .minor (← readPoint .major rest)
  let (patch, rest) ← readNumber .patch (← readPoint .minor rest)
  let (preRelease, rest) ← readBehind '-' .preRelease rest
  let (build, rest) ← readBehind '+' .build rest
  match rest with
  | [] => return ⟨major, minor, patch, preRelease, build⟩
  | c :: _ => throw (.behind (lastPart preRelease build) c)

/-- What keeps a text from being a version, if anything does. -/
def problem? (text : String) : Option Problem :=
  match parse text with
  | .ok _ => none
  | .error problem => some problem

end Semver

end Subgraph
