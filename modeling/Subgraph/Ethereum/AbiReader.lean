import Subgraph.Text.Order
import Subgraph.Error
import Subgraph.Json.Reader
import Subgraph.Ethereum.Abi
import Subgraph.Ethereum.TypeSpecifier

/-!
# Ethereum — reading contract interfaces

An interface file is JSON.  The list of its items is the whole document, or it is the field `abi` of
an object: of the object under `compilerOutput` when that has one, else of the document.

* `Abi.parse` reads a text, `Abi.ofJson` a JSON value, `Abi.ofItems?` the items.
* A document without a list of items is `invalid`; anything else that is wrong makes it `malformed`.
* Records that carry no state mutability may be written as arrays of their parts.
-/

namespace Subgraph.Ethereum

/-- A name that may be given to an item or a parameter; no name may be given too. -/
def isItemName (name : String) : Bool := name == "" || isIdentifier name.toList

/-- A name that an item must have. -/
def itemName? (part : Option Json) : Option String := do
  let name ← (← part).string?
  guard (isItemName name)
  return name

/-- A part that may be missing, or null, or else must be of one kind. -/
def isAbsentOr (kind : Json → Bool) : Option Json → Bool
  | none => true
  | some value => value.isNull || kind value

/-- Where a parameter stands. -/
inductive Place where
  | event
  /-- Anywhere else; such a parameter cannot be indexed. -/
  | plain
  deriving DecidableEq, Repr

/-- The part that tells whether a parameter is indexed is as it may be. -/
def Place.admitsIndexed (place : Place) : Option Json → Bool :=
  isAbsentOr fun value => place == .event && value.bool?.isSome

/-- A type is as it may be for a parameter with these components. -/
def isParamType (type : String) (components : List Param) : Bool :=
  if components.isEmpty then isTypeSpecifier type else "tuple".toList.isPrefixOf type.toList

/-- A parameter; `height` bounds how many parameters are inside one another. -/
def readParam? : Nat → Place → Json → Option Param
  | 0, _, _ => none
  | height + 1, place, json => do
    match ← json.parts? ["name", "type", "indexed", "internalType", "components"] with
    | [name, type, indexed, internalType, components] =>
      let name ← match name with
        | none => some ""
        | some name => itemName? (some name)
      let type ← (← type).string?
      guard (place.admitsIndexed indexed)
      guard (isAbsentOr (fun value => value.string?.isSome) internalType)
      let components ← match components with
        | none => some []
        | some value => (← value.array?).mapM (readParam? height .plain)
      guard (isParamType type components)
      return .mk name type components
    | _ => none

/-- A list of parameters that must be there. -/
def params? (place : Place) (part : Option Json) : Option (List Param) := do
  (← (← part).array?).mapM fun json => readParam? (json.height + 1) place json

/-- A flag that is off when it is missing or null. -/
def flag? (key : String) (fields : List (String × Json)) : Option Bool :=
  match Json.lastOf key fields with
  | none | some .null => some false
  | some value => value.bool?

/-- The only key of an object, which may be repeated, and its value. -/
def onlyField? (fields : List (String × Json)) : Option (String × Json) :=
  match fields.getLast? with
  | some (key, value) => if fields.all (·.1 == key) then some (key, value) else none
  | none => none

/-- A mutability, by its name or as an object whose only key is its name. -/
def mutabilityValue? : Json → Option Mutability
  | .string name => Mutability.ofName? name
  | .object fields =>
    match onlyField? fields with
    | some (name, .null) | some (name, .object []) => Mutability.ofName? name
    | _ => none
  | _ => none

/-- The mutability of an item: what it says, else what the two older flags say. -/
def mutability? (fields : List (String × Json)) : Option Mutability := do
  let payable ← flag? "payable" fields
  let constant ← flag? "constant" fields
  match Json.lastOf "stateMutability" fields with
  | none | some .null =>
    match payable, constant with
    | true, true => none
    | true, false => return .payable
    | false, true => return .view
    | false, false => return .nonpayable
  | some value => mutabilityValue? value

/-- An item of an interface. -/
inductive Item where
  | creation (inputs : List Param)
  | fallback
  | receive
  | function (f : Function)
  | event (e : Event)
  | failure
  deriving Repr, Inhabited

namespace Item

/-- The tag of an item, its first part. -/
def tag? : Json → Option String
  | .object fields => (Json.lastOf "type" fields).bind Json.string?
  | .array (tag :: _) => tag.string?
  | _ => none

/-- The fields of an item that is written as an object. -/
def fields? : Json → Option (List (String × Json))
  | .object fields => some fields
  | _ => none

def readCreation? (json : Json) : Option Item := do
  let fields ← fields? json
  let inputs ← params? .plain (Json.lastOf "inputs" fields)
  let _ ← mutability? fields
  return .creation inputs

def readFunction? (json : Json) : Option Item := do
  let fields ← fields? json
  let name ← itemName? (Json.lastOf "name" fields)
  let inputs ← params? .plain (Json.lastOf "inputs" fields)
  let outputs ← params? .plain (Json.lastOf "outputs" fields)
  return .function ⟨name, inputs, outputs, ← mutability? fields⟩

def readEvent? (json : Json) : Option Item := do
  match ← json.parts? ["type", "name", "inputs", "anonymous"] with
  | [_, name, inputs, anonymous] =>
    let name ← itemName? name
    let inputs ← params? .event inputs
    let _ ← (← anonymous).bool?
    return .event ⟨name, inputs⟩
  | _ => none

def readFailure? (json : Json) : Option Item := do
  match ← json.parts? ["type", "name", "inputs"] with
  | [_, name, inputs] =>
    let _ ← itemName? name
    let _ ← params? .plain inputs
    return .failure
  | _ => none

/-- An item. -/
def read? (json : Json) : Option Item := do
  match ← tag? json with
  | "constructor" => readCreation? json
  | "fallback" => (fields? json).bind mutability? |>.map fun _ => .fallback
  | "receive" => (fields? json).bind mutability? |>.map fun _ => .receive
  | "function" => readFunction? json
  | "event" => readEvent? json
  | "error" => readFailure? json
  | _ => none

def creation? : Item → Option (List Param)
  | .creation inputs => some inputs
  | _ => none

def function? : Item → Option Function
  | .function f => some f
  | _ => none

def event? : Item → Option Event
  | .event e => some e
  | _ => none

def isFallback : Item → Bool
  | .fallback => true
  | _ => false

def isReceive : Item → Bool
  | .receive => true
  | _ => false

end Item

namespace Abi

/-- The interface with these items; none when there are two of an item that occurs once. -/
def ofItems? (items : List Item) : Option Abi :=
  let creations := items.filterMap Item.creation?
  if creations.length ≤ 1 ∧ items.countP Item.isFallback ≤ 1 ∧ items.countP Item.isReceive ≤ 1 then
    some {
      constructor? := creations.head?
      functions := Text.sortByName Function.name (items.filterMap Item.function?)
      events := Text.sortByName Event.name (items.filterMap Item.event?) }
  else none

/-- The value that should be the list of items. -/
def itemsOf : Json → Option Json
  | .object fields =>
    match Json.lastOf "compilerOutput" fields with
    | some output => (output.field? "abi").or (Json.lastOf "abi" fields)
    | none => Json.lastOf "abi" fields
  | json => some json

/-- The interface that a JSON value describes. -/
def ofJson (json : Json) : Except AbiError Abi :=
  match itemsOf json with
  | some (.array items) =>
    match (items.mapM Item.read?).bind ofItems? with
    | some abi => .ok abi
    | none => .error .malformed
  | _ => .error (.invalid .notAbi)

/-- The interface that a text describes. -/
def parse (text : String) : Except AbiError Abi :=
  match Json.parse? text with
  | some json => ofJson json
  | none => .error .malformed

end Abi

end Subgraph.Ethereum
