import Subgraph.Decimal

/-!
# Ethereum — type specifiers

The types that an interface file may give to a parameter without components: an identifier, perhaps
qualified, or a tuple of types in parentheses, and array groups behind either.  Whether the bindings
support the type is another question.

`isTypeSpecifier` reads the whole text.  A reader takes a text from its place on and returns the
rest.

* Spaces and tabs may stand behind an opening parenthesis, behind a comma, and before a closing
  parenthesis, but not before a comma.  A comma may follow the last member.
* Tuples are at most 79 inside one another.
-/

namespace Subgraph.Ethereum

/-- So many tuples may be inside one another. -/
def maxTupleDepth : Nat := 79

/-- `c` may begin an identifier. -/
def isIdentifierStart (c : Char) : Bool := c.isAlpha || c == '_' || c == '$'

/-- `c` may stand in an identifier. -/
def isIdentifierChar (c : Char) : Bool := isIdentifierStart c || c.isDigit

/-- The whole text is an identifier. -/
def isIdentifier : List Char → Bool
  | [] => false
  | c :: cs => isIdentifierStart c && cs.all isIdentifierChar

/-- What follows the identifier at the start of a text. -/
def afterIdentifier? : List Char → Option (List Char)
  | [] => none
  | c :: cs => if isIdentifierStart c then some (cs.dropWhile isIdentifierChar) else none

/-- What follows the type name at the start of a text: an identifier, a point behind it, and an
identifier behind the point, the last two of which may be missing. -/
def afterTypeName? (text : List Char) : Option (List Char) :=
  match afterIdentifier? text with
  | some ('.' :: rest) => some ((afterIdentifier? rest).getD rest)
  | rest => rest

/-- A row of digits is the size of an array: not zero, and less than `2 ^ 64`. -/
def isArraySize (digits : List Char) : Bool :=
  digits != [] && 0 < Decimal.digitsValue digits && Decimal.digitsValue digits < twoTo 64

/-- What follows the array group at the start of a text, from behind its opening bracket. -/
def afterGroup? (text : List Char) : Option (List Char) :=
  let digits := text.takeWhile Char.isDigit
  match text.dropWhile Char.isDigit with
  | ']' :: rest => if digits = [] ∨ isArraySize digits then some rest else none
  | _ => none

/-- What follows the array groups at the start of a text. -/
def afterGroups? : Nat → List Char → Option (List Char)
  | fuel + 1, '[' :: rest => (afterGroup? rest).bind (afterGroups? fuel)
  | _, text => some text

def isBlankInList (c : Char) : Bool := c == ' ' || c == '\t'

/-- What follows the blanks at the start of a text. -/
def afterBlanks (text : List Char) : List Char := text.dropWhile isBlankInList

/-- What follows the parenthesis that begins a text, perhaps after the word `tuple`. -/
def afterTupleOpening? : List Char → Option (List Char)
  | '(' :: rest => some rest
  | 't' :: 'u' :: 'p' :: 'l' :: 'e' :: '(' :: rest => some rest
  | _ => none

mutual

/-- What follows the type at the start of a text, inside so many more tuples as `depth` allows. -/
def afterType? : Nat → Nat → List Char → Option (List Char)
  | 0, _, _ => none
  | fuel + 1, depth, text =>
    match afterTupleOpening? text with
    | none => (afterTypeName? text).bind (afterGroups? fuel)
    | some rest =>
      match depth, afterBlanks rest with
      | 0, _ => none
      | _ + 1, ')' :: rest => afterGroups? fuel rest
      | depth + 1, rest => (afterMembers? fuel depth rest).bind (afterGroups? fuel)

/-- What follows the members of a tuple and its closing parenthesis, from the first member on. -/
def afterMembers? : Nat → Nat → List Char → Option (List Char)
  | 0, _, _ => none
  | fuel + 1, depth, text =>
    match afterType? fuel depth text with
    | none => none
    | some (',' :: rest) =>
      match afterBlanks rest with
      | ')' :: rest => some rest
      | rest => afterMembers? fuel depth rest
    | some rest =>
      match afterBlanks rest with
      | ')' :: rest => some rest
      | _ => none

end

/-- The whole text is a type specifier. -/
def isTypeSpecifier (text : String) : Bool :=
  let cs := text.toList
  afterType? (2 * cs.length + 2) maxTupleDepth cs == some []

end Subgraph.Ethereum
