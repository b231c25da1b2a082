import Subgraph.Text.Blank
import Subgraph.Text.Hex
import Subgraph.Text.Letter

/-!
# Log — patterns

A directive of a filter may ask for the value of a field by a regular expression.  `isPattern` says
which texts are regular expressions.

* A pattern is a sequence of characters, classes and groups, with marks of repetition behind them
  and bars between alternatives.  A group may have a name, or flags that hold inside it; flags in
  parentheses of their own hold up to the end of the group around them (`PatternMode`).
* There are no tables of Unicode: the classes of digits, blanks and letters, places at words, and
  letters in either case are there for octets only.  A pattern for octets matches text, so it may
  not name an octet that is no character by itself.
* An opening brace would begin the number of a repetition or the name of a class.  Both end in a
  closing brace, and there is none in the field of a directive; so an opening one is an error.
-/

namespace Subgraph.Log

/-- How the characters of a pattern count. -/
structure PatternMode where
  /-- They are characters, and not octets. -/
  unicode : Bool := true
  /-- Letters of either case count as one. -/
  foldsCase : Bool := false
  /-- Blanks are passed over, and so are comments, from a `#` to the end of the line. -/
  isSpaced : Bool := false
  deriving DecidableEq, Repr

/-- What a backslash begins, or what a character is by itself. -/
inductive PatternAtom where
  /-- A character; it may be written as an octet, by two digits. -/
  | literal (c : Char) (isOctet : Bool)
  /-- The digits, the blanks or the letters, or all other characters. -/
  | charClass (negated : Bool)
  /-- A place between characters, perhaps at the border of a word. -/
  | place (atWord : Bool)
  deriving DecidableEq, Repr

namespace PatternMode

/-- The text behind a comment. -/
def afterComment (text : List Char) : List Char := (text.dropWhile (· != '\n')).tail

/-- The place behind blanks and comments; `fuel` bounds the number of comments. -/
def skipSpace : (fuel : Nat) → List Char → List Char
  | 0, text => text
  | fuel + 1, text =>
    match Text.trimStart text with
    | '#' :: rest => skipSpace fuel (afterComment rest)
    | rest => rest

/-- The place behind what is passed over. -/
def skip (mode : PatternMode) (text : List Char) : List Char :=
  if mode.isSpaced then skipSpace (text.length + 1) text else text

/-- An atom may stand outside of brackets. -/
def admits (mode : PatternMode) : PatternAtom → Bool
  | .literal c isOctet =>
    if mode.unicode then !mode.foldsCase else !(isOctet && 0x80 ≤ c.toNat)
  | .charClass negated => !mode.unicode && !negated
  | .place atWord => !(mode.unicode && atWord)

/-- An atom may stand in brackets. -/
def admitsInBrackets (mode : PatternMode) : PatternAtom → Bool
  | .literal c _ => mode.unicode || c.toNat < 0x80
  | .charClass negated => !mode.unicode && !negated
  | .place _ => false

/-- A class in brackets, or its negation, may stand here. -/
def admitsClass (mode : PatternMode) (negated : Bool) : Bool :=
  if mode.unicode then !mode.foldsCase else !negated

/-- A flag behind those that are set and those that are taken back. -/
def flag (set reset : List Char) (letter : Char) (before : Bool) : Bool :=
  set.contains letter || (before && !reset.contains letter)

/-- The mode with some flags: those behind a hyphen are taken back. -/
def withFlags (mode : PatternMode) (flags : List Char) : PatternMode :=
  let set := flags.takeWhile (· != '-')
  let reset := flags.dropWhile (· != '-')
  { unicode := flag set reset 'u' mode.unicode
    foldsCase := flag set reset 'i' mode.foldsCase
    isSpaced := flag set reset 'x' mode.isSpaced }

end PatternMode

/-! ### Atoms -/

/-- The letters that may be flags, and the hyphen. -/
def flagLetters : List Char := "imsUuRx-".toList

/-- Flags as they may be written: each once, and something behind the hyphen. -/
def areFlags (flags : List Char) : Bool :=
  flags.all flagLetters.contains && decide flags.Nodup && flags.getLast? != some '-'

/-- A punctuation character or a blank, which a backslash makes stand for itself. -/
def isEscapable (c : Char) : Bool := c.toNat < 0x80 && !c.isAlphanum && c != '<' && c != '>'

/-- So many digits of a code point behind those read already, and what follows them. -/
def readCode (mode : PatternMode) : Nat → Nat → List Char → Option (Nat × List Char)
  | 0, value, text => some (value, text)
  | n + 1, value, text =>
    match mode.skip text with
    | [] => none
    | c :: rest => (Text.hexDigit? c).bind fun d => readCode mode n (16 * value + d) rest

/-- What a letter behind a backslash stands for. -/
def letterAtom? (c : Char) : Option PatternAtom :=
  if "afnrtv".toList.contains c then some (.literal c false)
  else if c = 'A' ∨ c = 'z' then some (.place false)
  else if c = 'b' ∨ c = 'B' ∨ c = '<' ∨ c = '>' then some (.place true)
  else if c = 'd' ∨ c = 's' ∨ c = 'w' then some (.charClass false)
  else if c = 'D' ∨ c = 'S' ∨ c = 'W' then some (.charClass true)
  else none

/-- The atom that begins with `c`, and what follows it. -/
def readAtom (mode : PatternMode) (c : Char) (rest : List Char) :
    Option (PatternAtom × List Char) :=
  if c ≠ '\\' then some (.literal c false, rest)
  else match rest with
    | [] => none
    | letter :: rest =>
      match Text.codeLength? letter with
      | some n => do
        let (value, rest) ← readCode mode n 0 rest
        return (.literal (← Text.codeChar? value) (letter == 'x'), rest)
      | none =>
        if isEscapable letter then some (.literal letter false, rest)
        else (letterAtom? letter).map fun atom => (atom, rest)

/-! ### Classes in brackets -/

/-- The names of classes of ASCII characters. -/
def asciiClasses : List String :=
  ["alnum", "alpha", "ascii", "blank", "cntrl", "digit", "graph", "lower", "print", "punct",
    "space", "upper", "word", "xdigit"]

/-- Whether the class named behind an opening bracket is negated, and what follows its name. -/
def asciiClass? : List Char → Option (Bool × List Char)
  | ':' :: text =>
    let negated := text.head? = some '^'
    let text := if negated then text.tail else text
    match text.dropWhile (· != ':') with
    | ':' :: ']' :: rest =>
      if asciiClasses.contains (String.ofList (text.takeWhile (· != ':'))) then some (negated, rest)
      else none
    | _ => none
  | _ => none

/-- The content of a class from behind its opening bracket.  A closing bracket at the start stands
for itself. -/
def openClass (mode : PatternMode) (text : List Char) : Option (List Char) :=
  let text := mode.skip text
  let negated := text.head? = some '^'
  let text := if negated then mode.skip text.tail else text
  if mode.admitsClass negated then some (if text.head? = some ']' then text.tail else text)
  else none

/-- What follows a character, a class or a range of characters in brackets. -/
def afterMember (mode : PatternMode) (c : Char) (rest : List Char) : Option (List Char) := do
  let (first, rest) ← readAtom mode c rest
  let member := if mode.admitsInBrackets first then some rest else none
  match mode.skip rest with
  | '-' :: rest =>
    match mode.skip rest with
    | ']' :: _ | '-' :: _ => member
    | c :: rest =>
      let (last, rest) ← readAtom mode c rest
      match first, last with
      | .literal a _, .literal b _ =>
        if a ≤ b ∧ [first, last].all mode.admitsInBrackets then some rest else none
      | _, _ => none
    | [] => none
  | _ => member

/-- What follows a class, from a place inside it and inside so many classes more. -/
def afterClass (mode : PatternMode) : Nat → (depth : Nat) → List Char → Option (List Char)
  | 0, _, _ => none
  | fuel + 1, depth, text =>
    match mode.skip text with
    | [] => none
    | '[' :: rest =>
      match asciiClass? rest with
      | some (negated, rest) =>
        if mode.admitsClass negated then afterClass mode fuel depth rest else none
      | none => (openClass mode rest).bind (afterClass mode fuel (depth + 1))
    | ']' :: rest =>
      match depth with
      | 0 => some rest
      | depth + 1 => afterClass mode fuel depth rest
    | '&' :: '&' :: rest | '-' :: '-' :: rest | '~' :: '~' :: rest =>
      afterClass mode fuel depth rest
    | c :: rest => (afterMember mode c rest).bind (afterClass mode fuel depth)

/-! ### Groups -/

/-- What an opening parenthesis begins. -/
inductive GroupStart where
  /-- A group with this mode inside, and perhaps a name. -/
  | group (inside : PatternMode) (name? : Option (List Char))
  /-- No group: the mode changes. -/
  | flags (mode : PatternMode)
  deriving DecidableEq, Repr

/-- `c` may stand in the name of a group, or begin it. -/
def isGroupNameChar (first : Bool) (c : Char) : Bool :=
  if first then c == '_' || (Text.isAlphanumeric c && !c.isDigit)
  else c == '_' || c == '.' || c == '[' || c == ']' || Text.isAlphanumeric c

/-- The name of a group, and what follows its end mark. -/
def groupName? (text : List Char) : Option (List Char × List Char) :=
  match text.takeWhile (· != '>'), text.dropWhile (· != '>') with
  | c :: name, _ :: rest =>
    if isGroupNameChar true c ∧ name.all (isGroupNameChar false) then some (c :: name, rest)
    else none
  | _, _ => none

/-- What the parenthesis before a text begins, and what follows its marks. -/
def groupStart? (mode : PatternMode) : List Char → Option (GroupStart × List Char)
  | '?' :: 'P' :: '<' :: rest | '?' :: '<' :: rest =>
    (groupName? rest).map fun (name, rest) => (.group mode (some name), rest)
  | '?' :: rest =>
    let isEnd := fun c => c == ':' || c == ')'
    let flags := rest.takeWhile fun c => !isEnd c
    match areFlags flags, rest.dropWhile fun c => !isEnd c with
    | true, ':' :: rest => some (.group (mode.withFlags flags) none, rest)
    | true, _ :: rest => if flags = [] then none else some (.flags (mode.withFlags flags), rest)
    | _, _ => none
  | rest => some (.group mode none, rest)

/-! ### Patterns -/

/-- A place in a pattern. -/
structure PatternPlace where
  mode : PatternMode := {}
  /-- The modes around the groups that are open, innermost first. -/
  around : List PatternMode := []
  /-- The names of groups so far. -/
  names : List (List Char) := []
  /-- Something that may be repeated ends here. -/
  repeatable : Bool := false
  deriving DecidableEq, Repr

namespace PatternPlace

/-- The place behind an opening parenthesis. -/
def openGroup (s : PatternPlace) (text : List Char) : Option (PatternPlace × List Char) := do
  match ← groupStart? s.mode (s.mode.skip text) with
  | (.flags mode, rest) => return ({ s with mode := mode, repeatable := false }, rest)
  | (.group inside name?, rest) =>
    guard (!name?.any s.names.contains)
    return (⟨inside, s.mode :: s.around, name?.toList ++ s.names, false⟩, rest)

/-- The place behind a closing parenthesis. -/
def closeGroup (s : PatternPlace) : Option PatternPlace :=
  match s.around with
  | [] => none
  | mode :: around => some { s with mode := mode, around := around, repeatable := true }

/-- The place behind the next part of a pattern, which begins with `c`. -/
def next (s : PatternPlace) (c : Char) (rest : List Char) : Option (PatternPlace × List Char) :=
  let behind := fun rest => ({ s with repeatable := true }, rest)
  if c = '(' then s.openGroup rest
  else if c = ')' then s.closeGroup.map (·, rest)
  else if c = '|' then some ({ s with repeatable := false }, rest)
  else if c = '?' ∨ c = '*' ∨ c = '+' then if s.repeatable then some (s, rest) else none
  else if c = '\x7b' then none
  else if c = '[' then
    (openClass s.mode rest).bind fun text =>
      (afterClass s.mode (text.length + 1) 0 text).map behind
  else if c = '.' then if s.mode.unicode then some (behind rest) else none
  else if c = '^' ∨ c = '$' then some (behind rest)
  else match readAtom s.mode c rest with
    | some (atom, rest) => if s.mode.admits atom then some (behind rest) else none
    | none => none

/-- The rest of a pattern can be read to its end; `fuel` is more than its length. -/
def finishes : (fuel : Nat) → PatternPlace → List Char → Bool
  | 0, _, _ => false
  | fuel + 1, s, text =>
    match s.mode.skip text with
    | [] => s.around.isEmpty
    | c :: rest =>
      match s.next c rest with
      | some (s, rest) => finishes fuel s rest
      | none => false

end PatternPlace

/-- The text is a regular expression. -/
def isPattern (text : List Char) : Bool := PatternPlace.finishes (text.length + 1) {} text

end Subgraph.Log
