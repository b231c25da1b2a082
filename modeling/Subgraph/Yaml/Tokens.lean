import Subgraph.Yaml.FlowScalar
import Subgraph.Yaml.BlockScalar
import Subgraph.Yaml.Tag

/-!
# Yaml — the tokens of a text

`tokens?` splits a text into tokens.  The first character of a token decides its kind.

* Outside brackets, a column to the right of the indentation opens a block, and one to the left
  closes the blocks that lie deeper.
* What begins a key is known only at the colon behind it.  Each level of brackets remembers the
  last place where a key may have begun, a `Candidate`; the colon puts the key's token in at that
  place.  A key fits on one line and has at most 1024 octets before its colon.  At the indentation
  of a block nothing but a key may stand, so a candidate there must become one.
-/

namespace Subgraph.Yaml

/-- A place where a key may have begun. -/
structure Candidate where
  /-- The number of tokens before it. -/
  place : Nat
  line : Nat
  column : Nat
  /-- The number of octets before it. -/
  offset : Nat
  /-- Nothing but a key may stand there. -/
  required : Bool
  deriving DecidableEq, Repr

/-- Where the splitting of a text stands. -/
structure Scanner where
  rest : List Char
  line : Nat := 0
  column : Nat := 0
  /-- The number of octets before this place. -/
  offset : Nat := 0
  /-- The tokens so far, the last one first. -/
  found : List Token := []
  /-- The column of the innermost block; -1 for none. -/
  indent : Int := -1
  /-- The columns of the blocks around it. -/
  outer : List Int := []
  /-- A key may begin here. -/
  keyAllowed : Bool := true
  /-- The candidate on this level of brackets. -/
  candidate? : Option Candidate := none
  /-- The candidates on the levels around it, innermost first. -/
  around : List (Option Candidate) := []
  deriving DecidableEq, Repr

namespace Scanner

/-- Some brackets are open. -/
def inFlow (s : Scanner) : Bool := !s.around.isEmpty

/-- The place behind `n` more characters. -/
def skip : Nat → Scanner → Scanner
  | 0, s => s
  | n + 1, s =>
    match s.rest with
    | [] => s
    | c :: rest =>
      let s := { s with rest := rest, offset := s.offset + c.utf8Size }
      skip n (if isBreak c then { s with line := s.line + 1, column := 0 }
        else { s with column := s.column + 1 })

/-- The place at which nothing is left but `rest`, the end of what is left here. -/
def skipTo (s : Scanner) (rest : List Char) : Scanner := s.skip (s.rest.length - rest.length)

def put (s : Scanner) (t : Token) : Scanner := { s with found := t :: s.found }

/-- A token put in where there were `place` tokens. -/
def putAt (s : Scanner) (place : Nat) (t : Token) : Scanner :=
  { s with found := s.found.insertIdx (s.found.length - place) t }

/-! ### Gaps -/

/-- The number of characters of the gap at the start of a text, and whether a key may begin behind
it.  Tabs belong to the gap where no key may begin. -/
def gapFrom (inFlow : Bool) : (comment keyAllowed : Bool) → (column : Nat) → List Char → Nat × Bool
  | _, allowed, _, [] => (0, allowed)
  | comment, allowed, column, c :: rest =>
    let count := fun (found : Nat × Bool) => (found.1 + 1, found.2)
    if isBreak c then count (gapFrom inFlow false (!inFlow || allowed) 0 rest)
    else if comment || (c == byteOrderMark && column == 0) || c == ' '
        || (c == '\t' && (inFlow || !allowed)) then
      count (gapFrom inFlow comment allowed (column + 1) rest)
    else if c = '#' then count (gapFrom inFlow true allowed (column + 1) rest)
    else (0, allowed)

/-- The place behind the gap that begins here. -/
def skipGap (s : Scanner) : Scanner :=
  let (n, allowed) := gapFrom s.inFlow false s.keyAllowed s.column s.rest
  { s.skip n with keyAllowed := allowed }

/-! ### Candidates -/

/-- The candidate has not been left behind. -/
def isFresh (s : Scanner) (c : Candidate) : Bool := c.line == s.line && s.offset ≤ c.offset + 1024

/-- A candidate, unless it has been left behind; one that is required must not be. -/
def refresh? (s : Scanner) : Option Candidate → Option (Option Candidate)
  | none => some none
  | some c => if s.isFresh c then some (some c) else if c.required then none else some none

/-- Without the candidates that have been left behind. -/
def dropStale (s : Scanner) : Option Scanner := do
  return { s with candidate? := ← s.refresh? s.candidate?, around := ← s.around.mapM s.refresh? }

/-- Without the candidate of this level. -/
def dropCandidate (s : Scanner) : Option Scanner :=
  match s.candidate? with
  | some c => if c.required then none else some { s with candidate? := none }
  | none => some s

/-- With a candidate here, if a key may begin here. -/
def markCandidate (s : Scanner) : Option Scanner := do
  if s.keyAllowed then
    let required := !s.inFlow && s.indent == s.column
    let c : Candidate := ⟨s.found.length, s.line, s.column, s.offset, required⟩
    return { ← s.dropCandidate with candidate? := some c }
  else return s

/-! ### Blocks -/

/-- With the ends of the blocks that lie to the right of a column. -/
def closeBlocks (column : Int) (indent : Int) (found : List Token) :
    List Int → List Token × Int × List Int
  | [] => (found, indent, [])
  | next :: outer =>
    if column < indent then closeBlocks column next (.blockEnd :: found) outer
    else (found, indent, next :: outer)

/-- With the ends of the blocks that lie to the right of a column; inside brackets there are none.
-/
def unroll (s : Scanner) (column : Int) : Scanner :=
  if s.inFlow then s
  else
    let (found, indent, outer) := closeBlocks column s.indent s.found s.outer
    { s with found := found, indent := indent, outer := outer }

/-- With the begin of a block at a column to the right of the others, put in behind so many
tokens. -/
def roll (s : Scanner) (column place : Nat) (t : Token) : Scanner :=
  if s.inFlow ∨ (column : Int) ≤ s.indent then s
  else { s.putAt place t with indent := column, outer := s.indent :: s.outer }

/-- With the begin of a block here, where one may begin. -/
def rollHere (s : Scanner) (t : Token) : Option Scanner :=
  if s.inFlow then some s
  else if s.keyAllowed then some (s.roll s.column s.found.length t)
  else none

/-! ### Tokens -/

/-- A token that is read from behind the first character. -/
def readOn (s : Scanner) (read : List Char → Option (Token × List Char)) : Option Scanner := do
  let (t, rest) ← read s.rest.tail
  return (s.skipTo rest).put t

/-- A token that only marks a place between documents. -/
def between (s : Scanner) : Option Scanner := do
  return { ← (s.unroll (-1)).dropCandidate with keyAllowed := false }

def directive (s : Scanner) : Option Scanner := do
  (← s.between).readOn readDirective

def documentMark (s : Scanner) (t : Token) : Option Scanner := do
  return ((← s.between).skip 3).put t

/-- An opening bracket. -/
def openFlow (s : Scanner) (t : Token) : Option Scanner := do
  let s ← s.markCandidate
  let s := { s with candidate? := none, around := s.candidate? :: s.around, keyAllowed := true }
  return (s.skip 1).put t

/-- A closing bracket. -/
def closeFlow (s : Scanner) (t : Token) : Option Scanner := do
  let s ← s.dropCandidate
  let s := match s.around with
    | [] => s
    | c :: around => { s with candidate? := c, around := around }
  return ({ s with keyAllowed := false }.skip 1).put t

def flowEntry (s : Scanner) : Option Scanner := do
  return ({ ← s.dropCandidate with keyAllowed := true }.skip 1).put .flowEntry

def blockEntry (s : Scanner) : Option Scanner := do
  let s ← (← s.rollHere .blockSequence).dropCandidate
  return ({ s with keyAllowed := true }.skip 1).put .blockEntry

/-- The mark of a key that is not simple. -/
def explicitKey (s : Scanner) : Option Scanner := do
  let s ← (← s.rollHere .blockMapping).dropCandidate
  return ({ s with keyAllowed := !s.inFlow }.skip 1).put .key

/-- With the candidate made a key, if there is one; the block of a value without a key may begin
here. -/
def resolveKey (s : Scanner) : Option Scanner :=
  match s.candidate? with
  | some c =>
    let s := (s.putAt c.place .key).roll c.column c.place .blockMapping
    some { s with candidate? := none, keyAllowed := false }
  | none => (s.rollHere .blockMapping).map fun s => { s with keyAllowed := !s.inFlow }

/-- A colon that is the mark of a value. -/
def value (s : Scanner) : Option Scanner := do
  return ((← s.resolveKey).skip 1).put .value

/-- The name of an anchor, and what follows it. -/
def readName (text : List Char) : Option (String × List Char) :=
  let name := text.takeWhile isNameChar
  let rest := text.dropWhile isNameChar
  if name ≠ [] ∧ (atGap rest ∨ (rest.head?.map "?:,]\x7d%@\x60".toList.contains).getD false) then
    some (String.ofList name, rest)
  else none

/-- A token that may begin a key and behind which none may begin. -/
def keyPart (s : Scanner) (read : List Char → Option (Token × List Char)) : Option Scanner := do
  let s ← s.markCandidate
  { s with keyAllowed := false }.readOn read

def blockScalar (s : Scanner) (style : ScalarStyle) : Option Scanner := do
  let s ← s.dropCandidate
  let (header, rest) ← Header.read? s.rest.tail
  let s := { s with keyAllowed := true }.skipTo rest
  let (text, n) ← readBlock (style == .folded) header s.indent s.rest
  return (s.skip n).put (.scalar style (String.ofList text))

def plainScalar (s : Scanner) : Option Scanner := do
  let s ← s.markCandidate
  let scalar ← readPlain ⟨s.inFlow, (s.indent + 1).toNat⟩ s.rest
  let s := (s.skipTo scalar.rest).put (.scalar .plain (String.ofList scalar.text))
  return { s with keyAllowed := scalar.endsLine }

/-- The characters that cannot begin a plain scalar, or only in some places. -/
def indicators : List Char := "-?:,[]\x7b\x7d#&*!|>'\"%@\x60".toList

/-- A plain scalar may begin with `c` before `rest`. -/
def beginsPlain (s : Scanner) (c : Char) (rest : List Char) : Bool :=
  if indicators.contains c then
    (c == '-' && !(rest.head?.map isSpace).getD false)
      || ((c == '?' || c == ':') && !s.inFlow && !atGap rest)
  else !isGap c

/-- The next token, which begins with `c` before `rest`. -/
def next (s : Scanner) (c : Char) (rest : List Char) : Option Scanner :=
  if s.column = 0 ∧ c = '%' then s.directive
  else if s.column = 0 ∧ isTriple '-' s.rest then s.documentMark .documentStart
  else if s.column = 0 ∧ isTriple '.' s.rest then s.documentMark .documentEnd
  else if c = '[' then s.openFlow .flowSequence
  else if c = '\x7b' then s.openFlow .flowMapping
  else if c = ']' then s.closeFlow .flowSequenceEnd
  else if c = '\x7d' then s.closeFlow .flowMappingEnd
  else if c = ',' then s.flowEntry
  else if c = '-' ∧ atGap rest then s.blockEntry
  else if c = '?' ∧ (s.inFlow ∨ atGap rest) then s.explicitKey
  else if c = ':' ∧ (s.inFlow ∨ atGap rest) then s.value
  else if c = '*' then
    s.keyPart fun text => (readName text).map fun (name, rest) => (.alias name, rest)
  else if c = '&' then
    s.keyPart fun text => (readName text).map fun (name, rest) => (.anchor name, rest)
  else if c = '!' then s.keyPart (readTag s.inFlow)
  else if c = '|' ∧ ¬ s.inFlow then s.blockScalar .literal
  else if c = '>' ∧ ¬ s.inFlow then s.blockScalar .folded
  else if c = '\x27' ∨ c = '"' then
    s.keyPart fun text =>
      (readQuoted c text).map fun (text, rest) => (.scalar .quoted (String.ofList text), rest)
  else if s.beginsPlain c rest then s.plainScalar
  else none

/-- The tokens of the rest of a text, which has less than `fuel` characters. -/
def run : Nat → Scanner → Option (List Token)
  | 0, _ => none
  | fuel + 1, s => do
    let s ← s.skipGap.dropStale
    let s := s.unroll s.column
    match s.rest with
    | [] => return (← s.between).found.reverse
    | c :: rest => run fuel (← s.next c rest)

end Scanner

/-- The tokens of a text. -/
def tokens? (text : List Char) : Option (List Token) :=
  Scanner.run (text.length + 1) { rest := text }

end Subgraph.Yaml
