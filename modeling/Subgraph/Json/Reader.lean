import Subgraph.Json
import Subgraph.Json.Numeral
import Subgraph.Text.Hex

/-!
# Json — reading

`Json.parse?` reads a whole text as one JSON value.  The reading is strict: no byte order mark, no
trailing text, no control characters inside strings, no half of a surrogate pair, no number beyond
all doubles, and at most 127 arrays and objects inside one another.

Each reader takes the text from its place on and returns the rest; `fuel` bounds how often the
readers call each other, which is at most twice for each character.
-/

namespace Subgraph.Json

/-- So many arrays and objects may be inside one another. -/
def maxDepth : Nat := 127

/-- The characters that may stand between two tokens. -/
def isGap (c : Char) : Bool := c == ' ' || c == '\t' || c == '\n' || c == '\r'

def skipGap (text : List Char) : List Char := text.dropWhile isGap

/-! ### Strings -/

/-- The 16-bit unit that four hexadecimal digits name. -/
def unit? (a b c d : Char) : Option Nat := do
  return 4096 * (← Text.hexDigit? a) + 256 * (← Text.hexDigit? b) + 16 * (← Text.hexDigit? c)
    + (← Text.hexDigit? d)

/-- A unit that begins a surrogate pair. -/
def isLead (u : Nat) : Bool := 0xD800 ≤ u && u ≤ 0xDBFF

/-- A unit that ends a surrogate pair. -/
def isTrail (u : Nat) : Bool := 0xDC00 ≤ u && u ≤ 0xDFFF

/-- The character of a surrogate pair. -/
def pairChar (lead trail : Nat) : Char :=
  Char.ofNat (0x10000 + 1024 * (lead - 0xD800) + (trail - 0xDC00))

/-- The character that a backslash and this letter stand for. -/
def escaped? : Char → Option Char
  | '"' => some '"'
  | '\\' => some '\\'
  | '/' => some '/'
  | 'b' => some '\x08'
  | 'f' => some '\x0c'
  | 'n' => some '\n'
  | 'r' => some '\r'
  | 't' => some '\t'
  | _ => none

/-- A string from behind its opening quote, and what follows the closing one. -/
def readString : List Char → Option (List Char × List Char)
  | [] => none
  | '"' :: rest => some ([], rest)
  | '\\' :: 'u' :: a :: b :: c :: d :: rest =>
    match unit? a b c d with
    | none => none
    | some u =>
      if isLead u then
        match rest with
        | '\\' :: 'u' :: e :: f :: g :: h :: rest =>
          match unit? e f g h with
          | none => none
          | some v =>
            if isTrail v then
              (readString rest).map fun (text, rest) => (pairChar u v :: text, rest)
            else none
        | _ => none
      else if isTrail u then none
      else (readString rest).map fun (text, rest) => (Char.ofNat u :: text, rest)
  | '\\' :: letter :: rest =>
    match escaped? letter with
    | none => none
    | some c => (readString rest).map fun (text, rest) => (c :: text, rest)
  | c :: rest =>
    if c < ' ' then none else (readString rest).map fun (text, rest) => (c :: text, rest)

/-! ### Numbers -/

/-- The characters that a number is made of. -/
def isNumeral (c : Char) : Bool :=
  c.isDigit || c == '-' || c == '+' || c == '.' || c == 'e' || c == 'E'

/-- The number at the start of a text, and what follows it. -/
def readNumber (text : List Char) : Option (Json × List Char) := do
  let written := text.takeWhile isNumeral
  let numeral ← Numeral.ofText? (if written.head? = some '-' then written.tail else written)
  guard (!numeral.overflows)
  return (.number (String.ofList written), text.dropWhile isNumeral)

/-! ### Values -/

/-- The rest of a text that begins with `word`. -/
def afterWord : List Char → List Char → Option (List Char)
  | [], text => some text
  | w :: word, c :: text => if w = c then afterWord word text else none
  | _ :: _, [] => none

mutual

/-- The value at the start of a text, inside so many more arrays and objects as `depth` allows. -/
def readValue : Nat → Nat → List Char → Option (Json × List Char)
  | 0, _, _ => none
  | fuel + 1, depth, text =>
    match skipGap text with
    | '"' :: rest => (readString rest).map fun (text, rest) => (.string (String.ofList text), rest)
    | '[' :: rest =>
      match depth, skipGap rest with
      | 0, _ => none
      | _ + 1, ']' :: rest => some (.array [], rest)
      | depth + 1, rest => (readItems fuel depth rest).map fun (items, rest) => (.array items, rest)
    | '\x7b' :: rest =>
      match depth, skipGap rest with
      | 0, _ => none
      | _ + 1, '\x7d' :: rest => some (.object [], rest)
      | depth + 1, rest =>
        (readFields fuel depth rest).map fun (fields, rest) => (.object fields, rest)
    | 'n' :: rest => (afterWord ['u', 'l', 'l'] rest).map (.null, ·)
    | 't' :: rest => (afterWord ['r', 'u', 'e'] rest).map (.bool true, ·)
    | 'f' :: rest => (afterWord ['a', 'l', 's', 'e'] rest).map (.bool false, ·)
    | text => readNumber text

/-- The items of an array from the first one on. -/
def readItems : Nat → Nat → List Char → Option (List Json × List Char)
  | 0, _, _ => none
  | fuel + 1, depth, text => do
    let (item, rest) ← readValue fuel depth text
    match skipGap rest with
    | ']' :: rest => return ([item], rest)
    | ',' :: rest =>
      let (items, rest) ← readItems fuel depth rest
      return (item :: items, rest)
    | _ => none

/-- The fields of an object from the first one on. -/
def readFields : Nat → Nat → List Char → Option (List (String × Json) × List Char)
  | 0, _, _ => none
  | fuel + 1, depth, text =>
    match skipGap text with
    | '"' :: rest => do
      let (key, rest) ← readString rest
      match skipGap rest with
      | ':' :: rest =>
        let (value, rest) ← readValue fuel depth rest
        match skipGap rest with
        | '\x7d' :: rest => return ([(String.ofList key, value)], rest)
        | ',' :: rest =>
          let (fields, rest) ← readFields fuel depth rest
          return ((String.ofList key, value) :: fields, rest)
        | _ => none
      | _ => none
    | _ => none

end

/-- The value of a text in JSON. -/
def parse? (text : String) : Option Json := do
  let cs := text.toList
  let (value, rest) ← readValue (2 * cs.length + 2) maxDepth cs
  guard ((skipGap rest).isEmpty)
  return value

end Subgraph.Json
