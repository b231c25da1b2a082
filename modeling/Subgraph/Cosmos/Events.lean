import Subgraph.Error
import Subgraph.Json.Reader

/-!
# Cosmos — event definitions

A Cosmos chain has no contract interfaces; the files that a manifest lists define types of events,
each with the keys of its attributes.  A file is JSON: a list of definitions, or an object with the
list under the key `events`.  An attribute is its key, or an object that has the key under `key`.

* `parseEvents` reads a text.  A text that is not JSON is `malformed`; a value of another shape, and
  a definition without a type, are `invalid`.
* A key that a record knows occurs in it at most once.
-/

namespace Subgraph.Cosmos

/-- The definition of an event: its type, and the keys of its attributes. -/
structure EventDefinition where
  type : String
  attributes : List String
  deriving DecidableEq, Repr, Inhabited

/-- The value of the field with this key, if any; fails when there are two. -/
def soleField? (key : String) (fields : List (String × Json)) : Option (Option Json) :=
  match fields.filter fun field => field.1 == key with
  | [] => some none
  | [(_, value)] => some (some value)
  | _ => none

/-- The key of an attribute. -/
def attributeKey? : Json → Option String
  | .string key => some key
  | .object fields => do (← (← soleField? "key" fields)).string?
  | _ => none

/-- The keys of a list of attributes; no list counts as an empty one. -/
def attributeKeys? : Option Json → Option (List String)
  | none => some []
  | some value => do (← value.array?).mapM attributeKey?

/-- A definition, as an object or as an array of its type and its attributes. -/
def definition? : Json → Option EventDefinition
  | .object fields => do
    let type ← soleField? "type" fields
    let attributes ← soleField? "attributes" fields
    return ⟨← (← type).string?, ← attributeKeys? attributes⟩
  | .array [type] => do return ⟨← type.string?, []⟩
  | .array [type, attributes] => do return ⟨← type.string?, ← attributeKeys? (some attributes)⟩
  | _ => none

/-- The definitions of a file. -/
def definitions? : Json → Option (List EventDefinition)
  | .object fields => do (← (← (← soleField? "events" fields)).array?).mapM definition?
  | .array items => items.mapM definition?
  | _ => none

/-- The definitions of a JSON value, all of which have a type. -/
def eventsOfJson (json : Json) : Except AbiError (List EventDefinition) :=
  match definitions? json with
  | none => .error (.invalid .notDefinitions)
  | some events =>
    match events.findIdx? fun e => e.type == "" with
    | some index => .error (.invalid (.emptyType index))
    | none => .ok events

/-- The definitions of a text. -/
def parseEvents (text : String) : Except AbiError (List EventDefinition) :=
  match Json.parse? text with
  | some json => eventsOfJson json
  | none => .error .malformed

end Subgraph.Cosmos
