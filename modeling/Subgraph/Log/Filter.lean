import Subgraph.Decimal
import Subgraph.Log.Level
import Subgraph.Log.Pattern
import Subgraph.Text.Octets
import Subgraph.Text.Pieces

/-!
# Log — filters

A filter is a list of directives with commas between them.  A directive is a level, for all
records, or it says which records it is for and perhaps down to which level: `target[span{field}]`,
where the target is the beginning of a target, and each of the three may be missing.

* Nothing here is inside a span.  A directive with the name of a span, or with a value that a field
  of a span must have, is for no records; one with a field alone is for the records with that field.
* Of the directives for a record the one with the longest target decides, and of two with targets
  of one length the one with a field.  Of two with the same target and field the last counts.

`Filter.parse?` reads a filter; `Filter.passes` says whether a record passes.
-/

namespace Subgraph.Log

/-- One rule of a filter. -/
structure Directive where
  /-- What the targets of records begin with. -/
  target? : Option String := none
  /-- The records are those inside certain spans. -/
  inSpan : Bool := false
  /-- A field that the records have. -/
  field? : Option String := none
  level : LevelFilter := .all
  deriving DecidableEq, Repr

namespace Directive

/-! ### Reading -/

/-- A directive may begin with this character. -/
def isStart (c : Char) : Bool :=
  c == '[' || c == '-' || c == ':' || c == '_' || Text.isAlphanumeric c

/-- The level behind the equals sign of a directive; all levels when there is none. -/
def readLevel (text : List Char) : Option LevelFilter :=
  if text = [] then some .all else LevelFilter.parse? text

/-- The directive of one word: a level, or a target. -/
def ofWord (text : List Char) : Directive :=
  match LevelFilter.parse? text with
  | some level => { level := level }
  | none => { target? := some (String.ofList text) }

/-- A number with a plus sign, which is no pattern but may be a value. -/
def isPlusNumber : List Char → Bool
  | '+' :: text =>
    (Decimal.ofText? text).isSome
      || ["inf", "infinity", "nan"].contains (String.ofList (text.map Char.toLower))
  | _ => false

/-- The name of a field, and whether there is a value behind it: a pattern, up to the next equals
sign. -/
def readField (text : List Char) : Option (String × Bool) :=
  match Text.pieces '=' text with
  | [name] => some (String.ofList name, false)
  | name :: value :: _ =>
    if isPlusNumber value ∨ isPattern value then some (String.ofList name, true) else none
  | [] => none

/-- The level at the end of a directive, if there is one; `place` is where `rest` begins. -/
def levelAt (whole : List Char) (place : Nat) : (rest : List Char) → Option LevelFilter
  | [] => some .all
  | '=' :: _ => readLevel (Text.dropOctets (place + 1) whole)
  | _ => none

/-- With a span from behind its opening bracket at `place` on. -/
def readSpan (whole : List Char) (place : Nat) (rest : List Char) (d : Directive) :
    Option Directive :=
  let name := rest.takeWhile fun c => c != ']' && c != '\x7b'
  let behindName := place + Text.octets name
  match rest.dropWhile fun c => c != ']' && c != '\x7b' with
  | [] => none
  | ']' :: rest => do
    return { d with inSpan := true, level := ← levelAt whole (behindName + 1) rest }
  | _ :: rest =>
    let field := rest.takeWhile (· != '\x7d')
    let behindField := behindName + 1 + Text.octets field
    match field, rest.dropWhile (· != '\x7d') with
    | _ :: _, _ :: ']' :: rest => do
      let shown := Text.takeOctets (Text.octets field) (Text.dropOctets (behindName + 1) whole)
      let (name, hasValue) ← readField shown
      return { d with
        inSpan := behindName != place || hasValue
        field? := some name
        level := ← levelAt whole (behindField + 2) rest }
    | _, _ => none

/-- The directive that a text is, when it is one.  The marks in it are looked for without the blanks
around it; what stands between them is taken from the whole text, at the same places counted in
octets, so that blanks at the start shift it. -/
def parse? (whole : List Char) : Option Directive :=
  let text := Text.trim whole
  let target := text.takeWhile fun c => c != '=' && c != '['
  let n := Text.octets target
  let shown := some (String.ofList (Text.takeOctets n whole))
  if ¬ (text.head?.map isStart).getD false then none
  else match text.dropWhile fun c => c != '=' && c != '[' with
    | [] => some (ofWord whole)
    | '=' :: _ =>
      (readLevel (Text.dropOctets (n + 1) whole)).map fun level =>
        { target? := shown, level := level }
    | _ :: rest => readSpan whole (n + 1) rest { target? := if n = 0 then none else shown }

/-! ### Choosing -/

/-- The directive is for records with this target and these fields. -/
def concerns (d : Directive) (target : String) (fields : List String) : Bool :=
  !d.inSpan && (d.target?.all fun start => start.toList.isPrefixOf target.toList)
    && d.field?.all fields.contains

/-- How closely a directive tells its targets; one for all records least. -/
def weight (d : Directive) : Nat :=
  match d.target? with
  | none => 0
  | some start => start.utf8ByteSize + 1

/-- Which of two directives decides about a record that both are for: the one that comes behind the
other in this order. -/
def order (d e : Directive) : Ordering :=
  (compare d.weight e.weight).then <|
  (compare d.field?.isSome e.field?.isSome).then <|
  (compare (d.target?.getD "") (e.target?.getD "")).then <|
  compare (d.field?.getD "") (e.field?.getD "")

end Directive

/-- Which records are let through. -/
abbrev Filter := List Directive

namespace Filter

/-- The filter of a text without directives lets errors through. -/
def ofDirectives (directives : List Directive) : Filter :=
  if directives.isEmpty then [{ level := Level.error.number }] else directives

/-- The filter that a text is, when it is one. -/
def parse? (text : String) : Option Filter :=
  let pieces := (Text.pieces ',' text.toList).filter (!·.isEmpty)
  ofDirectives <$> pieces.mapM Directive.parse?

/-- The filter for a text that is none. -/
def standard : Filter := [{ level := Level.info.number }]

/-- The filter of a text. -/
def ofText (text : String) : Filter := (parse? text).getD standard

/-- The directive that decides about records with a target and some fields. -/
def deciding? (filter : Filter) (target : String) (fields : List String) : Option Directive :=
  (filter.filter (·.concerns target fields)).foldl (fun best? d =>
    match best? with
    | none => some d
    | some best => if (best.order d).isLE then some d else some best) none

/-- A record with this target, these fields and this level passes. -/
def passes (filter : Filter) (target : String) (fields : List String) (level : Level) : Bool :=
  (filter.deciding? target fields).any fun d => level.number ≤ d.level

end Filter

end Subgraph.Log
