import Subgraph.Yaml.Document
import Subgraph.Yaml.Scalar

/-!
# Yaml — reading values of known types

A `Reader α` makes an `α` of a node.  Readers for the leaves are `text`, `natural`, `boolean` and
`generic`; `optional`, `list`, `entries` and `record` make readers out of others.

Two limits hold for a whole document.  Sequences and mappings are read down to a depth of 128,
aliases not counted: the `room` of a reader is how many may still be inside one another.  And
aliases are followed at most a hundred times as often as the document is large, so that a small
document cannot stand for a huge one.  What nobody reads falls under neither limit.
-/

namespace Subgraph.Yaml

/-- A computation that reads a document and may follow so many more aliases. -/
abbrev Reading := ReaderT Document (StateT Nat Option)

/-- What makes a value of a node, with room for so many containers inside one another. -/
def Reader (α : Type) := (room : Nat) → Node → Reading α

namespace Reading

/-- So many sequences and mappings may be inside one another. -/
def maxDepth : Nat := 128

/-- An alias may be followed so often for each part of a document. -/
def aliasesPerPart : Nat := 100

/-- The node that is meant: for an alias the one with its anchor. -/
def follow (node : Node) : Reading Node :=
  match node with
  | .alias anchor => do
    let aliases ← get
    guard (0 < aliases)
    set (aliases - 1)
    match (← read).target? anchor with
    | some target => return target
    | none => failure
  | node => return node

end Reading

open Reading

namespace Reader

variable {α : Type}

/-! ### Leaves -/

/-- The text of any scalar. -/
def text : Reader String := fun _ node => do
  match ← follow node with
  | .scalar _ _ text => return text
  | _ => failure

/-- A scalar that may be a value of a type other than text: a plain one, or a literal with the tag
of that type. -/
def typed (type : Scalar.CoreType) (parse? : String → Option α) : Reader α := fun _ node => do
  match ← follow node with
  | .scalar tag? style text =>
    guard (style = .plain ∨ (style = .literal ∧ tag?.bind Scalar.coreType? = some type))
    match parse? text with
    | some value => return value
    | none => failure
  | _ => failure

/-- A number of 64 bits without a sign. -/
def natural : Reader Nat :=
  typed .integer fun text => (Scalar.natural? text.toList).filter (· < twoTo 64)

def boolean : Reader Bool := typed .bool Scalar.bool?

/-- A value of any type. -/
def generic : Reader Value
  | room, node => do
    match ← follow node with
    | .scalar tag? style text =>
      match Scalar.value? tag? style text with
      | some value => return value
      | none => failure
    | .sequence tag? items =>
      guard (!tag?.any Scalar.isRefused)
      match room with
      | 0 => failure
      | room + 1 => return .sequence (← items.mapM (generic room))
    | .mapping tag? fields =>
      guard (!tag?.any Scalar.isRefused)
      match room with
      | 0 => failure
      | room + 1 =>
        let fields ← fields.mapM fun (key, value) => do
          return (← generic room key, ← generic room value)
        guard (Value.distinctKeys fields)
        return .mapping fields
    | .alias _ => failure

/-! ### Readers out of others -/

/-- A scalar says in this way that a value is missing; with the tag of null it may say nothing
else. -/
def isAbsent? (tag? : Option TagText) (style : ScalarStyle) (text : String) : Option Bool :=
  if style ≠ .plain then some false
  else match tag? with
    | none => some (text = "" || Scalar.isNullWord text)
    | some tag =>
      if Scalar.coreType? tag = some .null then
        if Scalar.isNullWord text then some true else none
      else some false

/-- A value that may be missing. -/
def optional (reader : Reader α) : Reader (Option α) := fun room node => do
  let node ← follow node
  let absent ← match node with
    | .scalar tag? style text =>
      match isAbsent? tag? style text with
      | some absent => pure absent
      | none => failure
    | _ => pure false
  if absent then return none else return some (← reader room node)

/-- A plain scalar without text stands for a container without content. -/
def isVoid : Node → Bool
  | .scalar _ .plain "" => true
  | _ => false

/-- A list. -/
def list (reader : Reader α) : Reader (List α) := fun room node => do
  match ← follow node with
  | .sequence _ items =>
    match room with
    | 0 => failure
    | room + 1 => items.mapM (reader room)
  | node => if isVoid node then return [] else failure

/-- The fields of a mapping by the texts of their keys, which are scalars. -/
structure Fields where
  room : Nat
  entries : List (String × Node)

/-- A mapping with keys that are scalars. -/
def fields : Reader Fields := fun room node => do
  match ← follow node with
  | .mapping _ fields =>
    match room with
    | 0 => failure
    | room + 1 =>
      return ⟨room, ← fields.mapM fun (key, value) => do return (← text room key, value)⟩
  | node => if isVoid node then return ⟨room, []⟩ else failure

/-- A mapping from texts; of fields with one key the last counts, and it stands where the first
was. -/
def merged (fields : List (String × α)) : List (String × α) :=
  fields.foldl (fun known field =>
    if known.any (·.1 == field.1) then
      known.map fun other => if other.1 == field.1 then field else other
    else known ++ [field]) []

/-- All fields of a mapping. -/
def entries (reader : Reader α) : Reader (List (String × α)) := fun room node => do
  let fields ← fields room node
  let all ← fields.entries.mapM fun (key, value) => do return (key, ← reader fields.room value)
  return merged all

/-- A mapping in which the keys of a record come at most once each. -/
def record (keys : List String) (read : Fields → Reading α) : Reader α := fun room node => do
  let fields ← fields room node
  guard (keys.all fun key => (fields.entries.filter (·.1 == key)).length ≤ 1)
  read fields

namespace Fields

/-- The value of a field that must be there. -/
def required (fields : Fields) (key : String) (reader : Reader α) : Reading α :=
  match fields.entries.lookup key with
  | some node => reader fields.room node
  | none => failure

/-- The value of a field, or another one where there is no field. -/
def withDefault (fields : Fields) (key : String) (default : α) (reader : Reader α) : Reading α :=
  match fields.entries.lookup key with
  | some node => reader fields.room node
  | none => pure default

/-- The value of a field, if it is there and has one. -/
def optional (fields : Fields) (key : String) (reader : Reader α) : Reading (Option α) :=
  fields.withDefault key none reader.optional

/-- The fields that a record does not know, with values of any type. -/
def others (fields : Fields) (keys : List String) : Reading (List (String × Value)) := do
  let unknown := fields.entries.filter fun field => !keys.contains field.1
  let all ← unknown.mapM fun (key, value) => do return (key, ← generic fields.room value)
  return merged all

end Fields

/-- What a reader makes of a text; a document without content is like a plain scalar without
text. -/
def parse? (reader : Reader α) (text : String) : Option α := do
  let document ← Document.parse? text
  let root := document.root?.getD (.scalar none .plain "")
  let reading : Reading α := reader maxDepth root
  (·.1) <$> (reading.run document).run (aliasesPerPart * root.size)

end Reader

end Subgraph.Yaml
