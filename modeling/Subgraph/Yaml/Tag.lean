import Subgraph.Yaml.Character
import Subgraph.Yaml.Token
import Subgraph.Text.Hex
import Subgraph.Decimal

/-!
# Yaml — tags and directives

A tag has a handle, which stands for the beginning that a directive gives it, and a rest in the
characters of a URI.  `readTag` and `readDirective` give a token and what follows it.
-/

namespace Subgraph.Yaml

/-- A character of a tag.  Written in full, between angle brackets, a tag may hold three more. -/
def isTagChar (full : Bool) (c : Char) : Bool :=
  isNameChar c || ";/?:@&=+$.!~*'()".toList.contains c
    || (full && (c == ',' || c == '[' || c == ']'))

/-- The octet that two hexadecimal digits name. -/
def octet? (a b : Char) : Option Nat := do
  return 16 * (← Text.hexDigit? a) + (← Text.hexDigit? b)

/-- The number of octets that follow the first one of a character. -/
def octetsBehind? (n : Nat) : Option Nat :=
  if n < 0x80 then some 0
  else if 0xC0 ≤ n ∧ n < 0xE0 then some 1
  else if 0xE0 ≤ n ∧ n < 0xF0 then some 2
  else if 0xF0 ≤ n ∧ n < 0xF8 then some 3
  else none

/-- The characters of a tag at the start of a text, and what follows them.  A character may be
written by its octets; `more` of them are to come. -/
def readTagChars (full : Bool) : (more : Nat) → List Char → Option (TagText × List Char)
  | 0, '%' :: a :: b :: rest =>
    (octet? a b).bind fun n => (octetsBehind? n).bind fun more =>
      (readTagChars full more rest).map fun (text, rest) => (n.toUInt8 :: text, rest)
  | 0, '%' :: _ => none
  | 0, c :: rest =>
    if isTagChar full c then
      (readTagChars full 0 rest).map fun (text, rest) => (c.toUInt8 :: text, rest)
    else some ([], c :: rest)
  | 0, [] => some ([], [])
  | more + 1, '%' :: a :: b :: rest =>
    (octet? a b).bind fun n =>
      if n < 0x80 ∨ 0xC0 ≤ n then none
      else (readTagChars full more rest).map fun (text, rest) => (n.toUInt8 :: text, rest)
  | _ + 1, _ => none

/-- At least one character of a tag, and what follows.  Of the octets those before a zero count. -/
def readTagText (full : Bool) (text : List Char) : Option (TagText × List Char) :=
  match readTagChars full 0 text with
  | some ([], _) => none
  | found => found.map fun (text, rest) => (text.untilZero, rest)

/-- What may be a handle, from behind its exclamation mark: the characters of a name, and perhaps
another mark. -/
def readHandle (text : List Char) : List Char × List Char :=
  let name := text.takeWhile isNameChar
  match text.dropWhile isNameChar with
  | '!' :: rest => ('!' :: name ++ ['!'], rest)
  | rest => ('!' :: name, rest)

/-- A tag between angle brackets, from behind the opening one. -/
def readFullTag (text : List Char) : Option (Token × List Char) :=
  match readTagText true text with
  | some (tag, '>' :: rest) => some (.tag "" tag, rest)
  | _ => none

/-- A tag that begins with a handle, or with a mark that is none.  A mark with nothing behind it is
a whole tag. -/
def readShortTag (text : List Char) : Option (Token × List Char) :=
  let (handle, rest) := readHandle text
  if 1 < handle.length ∧ handle.getLast? = some '!' then
    (readTagText false rest).map fun (tag, rest) => (.tag (String.ofList handle) tag, rest)
  else
    (readTagChars false 0 rest).map fun (tag, rest) =>
      match TagText.untilZero (handle.tail.map Char.toUInt8 ++ tag) with
      | [] => (.tag "" (.ofAscii "!"), rest)
      | tag => (.tag "!" tag, rest)

/-- A tag from behind its first mark, and what follows it: a gap, or inside brackets a comma. -/
def readTag (inFlow : Bool) (text : List Char) : Option (Token × List Char) := do
  let (token, rest) ← match text with
    | '<' :: rest => readFullTag rest
    | _ => readShortTag text
  guard (atGap rest ∨ (inFlow ∧ rest.head? = some ','))
  return (token, rest)

/-! ### Directives -/

/-- One to nine digits, and what follows them. -/
def readVersionPart (text : List Char) : Option (Nat × List Char) :=
  let digits := text.takeWhile Char.isDigit
  if digits ≠ [] ∧ digits.length ≤ 9 then
    some (Decimal.digitsValue digits, text.dropWhile Char.isDigit)
  else none

/-- The numbers of a version. -/
def readVersion (text : List Char) : Option (Token × List Char) := do
  let (major, rest) ← readVersionPart (text.dropWhile isSpace)
  match rest with
  | '.' :: rest =>
    let (minor, rest) ← readVersionPart rest
    return (.version major minor, rest)
  | _ => none

/-- A handle and the beginning that tags with it have. -/
def readTagHandle (text : List Char) : Option (Token × List Char) := do
  match text.dropWhile isSpace with
  | '!' :: rest =>
    let (handle, rest) := readHandle rest
    guard (handle.getLast? = some '!')
    guard ((rest.head?.map isSpace).getD false)
    let (beginning, rest) ← readTagText true (rest.dropWhile isSpace)
    guard (atGap rest)
    return (.tagHandle (String.ofList handle) beginning, rest)
  | _ => none

/-- A directive from behind its mark, and what follows its line. -/
def readDirective (text : List Char) : Option (Token × List Char) := do
  let name := text.takeWhile isNameChar
  let rest := text.dropWhile isNameChar
  guard (atGap rest)
  let (token, rest) ←
    if name = "YAML".toList then readVersion rest
    else if name = "TAG".toList then readTagHandle rest
    else none
  return (token, ← afterLine? rest)

end Subgraph.Yaml
