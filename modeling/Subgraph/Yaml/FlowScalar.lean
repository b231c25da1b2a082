import Subgraph.Yaml.Character
import Subgraph.Text.Hex

/-!
# Yaml — scalars inside lines

Plain and quoted scalars may run over several lines.  Between two of their words stands a `Gap`:
spaces on one line, or line ends with spaces around them.  The spaces on one line are kept; of line
ends the first is dropped and the others are kept, and a single one counts as a space (`Gap.text`).

`readQuoted` and `readPlain` give the text of a scalar and what follows it.
-/

namespace Subgraph.Yaml

/-- What has been passed since the last word of a scalar. -/
inductive Gap where
  | spaces (text : List Char)
  /-- Line ends: the first, unless it was escaped, and the others.  The column counts the
  characters since the last one. -/
  | lines (first : Option Char) (others : List Char) (column : Nat)
  deriving DecidableEq, Repr

namespace Gap

def none : Gap := .spaces []

/-- The gap with one more space or tab. -/
def addSpace (c : Char) : Gap → Gap
  | .spaces text => .spaces (text ++ [c])
  | .lines first others column => .lines first others (column + 1)

/-- The gap with one more line end. -/
def addBreak (c : Char) : Gap → Gap
  | .spaces _ => .lines (some c) [] 0
  | .lines first others _ => .lines first (others ++ [c]) 0

/-- What a gap leaves in the text of the scalar. -/
def text : Gap → List Char
  | .spaces text => text
  | .lines (some '\n') [] _ => [' ']
  | .lines (some '\n') others _ => others
  | .lines first others _ => first.toList ++ others

/-- The gap ends at the beginning of a line. -/
def isLineStart : Gap → Bool
  | .lines _ _ column => column == 0
  | .spaces _ => false

/-- The gap has line ends. -/
def hasBreak : Gap → Bool
  | .lines _ _ _ => true
  | .spaces _ => false

end Gap

/-! ### Quoted scalars -/

/-- The character that a backslash and this letter stand for. -/
def escaped? : Char → Option Char
  | '0' => some '\x00'
  | 'a' => some '\x07'
  | 'b' => some '\x08'
  | 't' | '\t' => some '\t'
  | 'n' => some '\n'
  | 'v' => some '\x0b'
  | 'f' => some '\x0c'
  | 'r' => some '\r'
  | 'e' => some '\x1b'
  | ' ' => some ' '
  | '"' => some '"'
  | '/' => some '/'
  | '\\' => some '\\'
  | 'N' => some '\u0085'
  | '_' => some '\u00a0'
  | 'L' => some '\u2028'
  | 'P' => some '\u2029'
  | _ => none

/-- What a reader of a quoted scalar is in the middle of. -/
inductive QuotedState where
  /-- Words and gaps. -/
  | words (gap : Gap)
  /-- The digits of a code point: so many to come, and the value so far. -/
  | code (more value : Nat)
  /-- Behind a backslash. -/
  | escape
  /-- Behind a quote that may be the first of two. -/
  | quote
  deriving DecidableEq, Repr

/-- The text of a scalar that `quote` ends, from the given state on, and what follows it. -/
def readQuotedFrom (quote : Char) : QuotedState → List Char → Option (List Char × List Char)
  | .quote, [] => some ([], [])
  | _, [] => none
  | .words gap, c :: rest =>
    if isSpace c then readQuotedFrom quote (.words (gap.addSpace c)) rest
    else if isBreak c then readQuotedFrom quote (.words (gap.addBreak c)) rest
    else if gap.isLineStart && isDocumentMark (c :: rest) then none
    else
      let readOn := fun (state : QuotedState) (shown : List Char) =>
        (readQuotedFrom quote state rest).map fun (text, rest) => (gap.text ++ shown ++ text, rest)
      if c = quote then
        if quote = '\x27' then readOn .quote [] else some (gap.text, rest)
      else if c = '\\' ∧ quote = '"' then readOn .escape []
      else readOn (.words .none) [c]
  | .quote, c :: rest =>
    if c = quote then
      (readQuotedFrom quote (.words .none) rest).map fun (text, rest) => (c :: text, rest)
    else some ([], c :: rest)
  | .escape, c :: rest =>
    if isBreak c then readQuotedFrom quote (.words (.lines none [] 0)) rest
    else match escaped? c, Text.codeLength? c with
      | some shown, _ =>
        (readQuotedFrom quote (.words .none) rest).map fun (text, rest) => (shown :: text, rest)
      | none, some n => readQuotedFrom quote (.code n 0) rest
      | none, none => none
  | .code more value, c :: rest =>
    match Text.hexDigit? c with
    | none => none
    | some d =>
      if 1 < more then readQuotedFrom quote (.code (more - 1) (16 * value + d)) rest
      else match Text.codeChar? (16 * value + d) with
        | none => none
        | some shown =>
          (readQuotedFrom quote (.words .none) rest).map fun (text, rest) => (shown :: text, rest)

/-- The text of a quoted scalar from behind its opening quote, and what follows the closing one. -/
def readQuoted (quote : Char) (text : List Char) : Option (List Char × List Char) :=
  readQuotedFrom quote (.words .none) text

/-! ### Plain scalars -/

/-- Where a scalar stands. -/
structure Context where
  /-- Inside brackets. -/
  inFlow : Bool
  /-- The least column at which a scalar may go on after a line end, outside brackets. -/
  column : Nat
  deriving DecidableEq, Repr

def isFlowBracket (c : Char) : Bool := c == '[' || c == ']' || c == '\x7b' || c == '\x7d'

/-- A colon followed by this character is an error inside brackets. -/
def isAfterBadColon (c : Char) : Bool := c == ',' || c == '?' || isFlowBracket c

/-- A plain scalar: its text, whether it was followed by a line end, and what follows it. -/
structure PlainScalar where
  text : List Char
  endsLine : Bool
  rest : List Char
  deriving DecidableEq, Repr

/-- The gap ends the scalar when the rest of the text begins with `c`. -/
def endsAtGap (context : Context) (gap : Gap) (c : Char) (rest : List Char) : Bool :=
  match gap with
  | .spaces text => text != [] && c == '#'
  | .lines _ _ column =>
    (!context.inFlow && column < context.column)
      || (column == 0 && isDocumentMark (c :: rest)) || c == '#'

/-- `c` ends the scalar, or a colon does. -/
def endsAtIndicator (context : Context) (c : Char) (rest : List Char) : Bool :=
  (c == ':' && atGap rest) || (context.inFlow && (c == ',' || isFlowBracket c))

/-- A colon that is an error. -/
def isBadColon (context : Context) (c : Char) (rest : List Char) : Bool :=
  context.inFlow && c == ':' && (rest.head?.map isAfterBadColon).getD false

/-- A tab that stands where indentation is expected. -/
def isBadTab (context : Context) (gap : Gap) (c : Char) : Bool :=
  match gap with
  | .spaces _ => false
  | .lines _ _ column => column < context.column && c == '\t'

/-- A plain scalar from a place inside it on, after a gap. -/
def readPlainFrom (context : Context) (gap : Gap) : List Char → Option PlainScalar
  | [] => some ⟨[], gap.hasBreak, []⟩
  | c :: rest =>
    if isSpace c then
      if isBadTab context gap c then none else readPlainFrom context (gap.addSpace c) rest
    else if isBreak c then readPlainFrom context (gap.addBreak c) rest
    else if endsAtGap context gap c rest then some ⟨[], gap.hasBreak, c :: rest⟩
    else if isBadColon context c rest then none
    else if endsAtIndicator context c rest then some ⟨[], gap.hasBreak, c :: rest⟩
    else (readPlainFrom context .none rest).map fun s => { s with text := gap.text ++ c :: s.text }

/-- The plain scalar at the start of a text. -/
def readPlain (context : Context) (text : List Char) : Option PlainScalar :=
  readPlainFrom context .none text

end Subgraph.Yaml
