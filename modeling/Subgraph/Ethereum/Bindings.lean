import Subgraph.Text.Identifier
import Subgraph.Text.Distinct
import Subgraph.Ethereum.Abi
import Subgraph.Ethereum.ValueType
import Subgraph.Generated.Class
import Subgraph.Generated.Module

/-!
# Ethereum — bindings of a contract interface

The bindings of an interface are declarations, each a group of classes, in this order:

* for each event its class, and the class of its parameters;
* the class of the contract, with a method for each function that can be called for its result, and
  a second one that gives a failed call as a value;
* for the constructor, and for each function that changes the contract, the class of its calls and
  those of the inputs and outputs of a call.

Overloads get distinct names.  An unsupported type among those used makes the bindings fail with
that type, the first in the order above.
-/

namespace Subgraph.Ethereum

open Generated Text

/-- What the bindings of a contract interface import. -/
def bindingImports : List String :=
  ["ethereum", "JSONValue", "TypedMap", "Entity", "Bytes", "Address", "BigInt"]

/-! ### Values by position -/

/-- A parameter as the bindings name and read it. -/
structure Slot where
  name : String
  index : Nat
  type : ValueType
  deriving DecidableEq, Repr

/-- The slots of parameters from a position on; a parameter without a name is called by a word and
its position. -/
def slotsFrom (word : String) (index : Nat) : List Param → Except AbiError (List Slot)
  | [] => .ok []
  | p :: ps => do
    let type ← valueType p.type
    let slots ← slotsFrom word (index + 1) ps
    return ⟨identifier p.name (word ++ toString index), index, type⟩ :: slots

def slots (word : String) (params : List Param) : Except AbiError (List Slot) :=
  slotsFrom word 0 params

/-- The getter that reads a slot from a list of decoded parameters. -/
def Slot.getter (s : Slot) (list : Expr) : Member :=
  .getter s.name s.type.ascription
    [.give (s.type.read (.member (.element list s.index) "value"))]

/-- A class that holds an object in a field and reads the slots of a list in it. -/
def accessorClass (name owner field list : String) (slots : List Slot) : ClassDecl where
  name := name
  base? := none
  members :=
    let held : Expr := .member (.word "this") ("_" ++ field)
    [.field ("_" ++ field) owner,
      .maker [⟨field, owner⟩] [.assign held (.word field)]]
    ++ slots.map (Slot.getter · (.member held list))

/-- A getter that wraps the object in a class. -/
def wrapGetter (name wrapper : String) : Member :=
  .getter name wrapper [.give (.make wrapper [.word "this"])]

/-! ### Events -/

def eventClasses (name : String) (params : List Slot) : List ClassDecl :=
  [⟨name, some "ethereum.Event", [wrapGetter "params" (name ++ "__Params")]⟩,
    accessorClass (name ++ "__Params") name "event" "parameters" params]

/-- The class name that an event asks for. -/
def eventName (e : Event) : String := identifier (pascalCase e.name) "Event"

/-- The declarations of events under the names handed out to them. -/
def eventDeclarations : List (String × Event) → Except AbiError (List (List ClassDecl))
  | [] => .ok []
  | (name, e) :: rest => do
    let params ← slots "param" e.inputs
    let declarations ← eventDeclarations rest
    return eventClasses name params :: declarations

/-! ### The contract -/

/-- The type of the only output; none when there are several. -/
def soleOutput? (outputs : List Param) : Except AbiError (Option ValueType) := do
  let types ← outputs.mapM fun p => valueType p.type
  match types with
  | [type] => return some type
  | _ => return none

/-- The result of a call read from the values that it gives. -/
def unwrapped (sole? : Option ValueType) (values : Expr) : Expr :=
  match sole? with
  | some type => type.read (.element values 0)
  | none => values

/-- A method that calls a function, and one that tries to. -/
def callMethods (name : String) (f : Function) : Except AbiError (List Member) := do
  let arguments ← slots "param" f.inputs
  let sole? ← soleOutput? f.outputs
  let parameters := arguments.map fun s => Parameter.mk s.name s.type.ascription
  let values := arguments.map fun s => s.type.write (.word s.name)
  let type := match sole? with
    | some type => type.ascription
    | none => "Array<ethereum.Value>"
  let names := [Expr.literal f.name, .literal f.signature]
  let outcome : Expr := .word "ethereum.CallResult"
  return [
    .method name parameters type
      [.declareCall "result" (.member (.word "super") "call") names values,
        .gap,
        .give (unwrapped sole? (.word "result"))],
    .method ("try_" ++ name) parameters ("ethereum.CallResult<" ++ type ++ ">")
      [.declareCall "result" (.member (.word "super") "tryCall") names values,
        .giveIf (.member (.word "result") "reverted") (.make "ethereum.CallResult" []),
        .declare "value" (.member (.word "result") "value"),
        .give (outcome.send "fromValue" [unwrapped sole? (.word "value")])]]

/-- The methods of functions under the names handed out to them. -/
def contractMethods : List (String × Function) → Except AbiError (List Member)
  | [] => .ok []
  | (name, f) :: rest => do
    let methods ← callMethods name f
    let others ← contractMethods rest
    return methods ++ others

/-- The class name of a contract. -/
def contractName (abiName : String) : String := identifier (pascalCase abiName) "Contract"

/-- The method that makes the object for a contract at an address. -/
def bindMethod (abiName : String) : Member :=
  let name := contractName abiName
  .function "bind" [⟨"address", "Address"⟩] name
    [.give (.make name [.literal abiName, .word "address"])]

/-- The name that a callable function asks for. -/
def methodName (f : Function) : String := identifier f.name "call"

/-- The functions of an interface that can be called for their result, under distinct names. -/
def callable (abi : Abi) : List (String × Function) :=
  let functions := abi.functions.filter Function.isCallable
  (distinctNames (functions.map methodName)).zip functions

def contractClass (abiName : String) (abi : Abi) : Except AbiError ClassDecl := do
  let methods ← contractMethods (callable abi)
  return ⟨contractName abiName, some "ethereum.SmartContract", bindMethod abiName :: methods⟩

/-! ### Calls -/

def callClasses (name : String) (inputs outputs : List Param) :
    Except AbiError (List ClassDecl) := do
  let inputs ← slots "value" inputs
  let outputs ← slots "value" outputs
  return [
    ⟨name, some "ethereum.Call",
      [wrapGetter "inputs" (name ++ "__Inputs"), wrapGetter "outputs" (name ++ "__Outputs")]⟩,
    accessorClass (name ++ "__Inputs") name "call" "inputValues" inputs,
    accessorClass (name ++ "__Outputs") name "call" "outputValues" outputs]

/-- The class name that a changing function asks for, without what ends the names of calls. -/
def callName (f : Function) : String := identifier (pascalCase f.name) "Function"

/-- The functions of an interface that change the contract, under distinct names. -/
def changing (abi : Abi) : List (String × Function) :=
  let functions := abi.functions.filter fun f => !f.isReadOnly
  (distinctNames (functions.map callName)).zip functions

/-- The declarations of calls of functions under the names handed out to them. -/
def callDeclarations : List (String × Function) → Except AbiError (List (List ClassDecl))
  | [] => .ok []
  | (name, f) :: rest => do
    let classes ← callClasses (name ++ "Call") f.inputs f.outputs
    let declarations ← callDeclarations rest
    return classes :: declarations

/-- The declaration of calls of the constructor, if there is one. -/
def creationDeclarations (abi : Abi) : Except AbiError (List (List ClassDecl)) :=
  match abi.constructor? with
  | none => .ok []
  | some inputs => do return [← callClasses "ConstructorCall" inputs []]

/-! ### The interface -/

/-- The events of an interface under distinct names. -/
def namedEvents (abi : Abi) : List (String × Event) :=
  (distinctNames (abi.events.map eventName)).zip abi.events

/-- The declarations of an interface that a manifest calls `abiName`. -/
def declarations (abiName : String) (abi : Abi) : Except AbiError (List (List ClassDecl)) := do
  let events ← eventDeclarations (namedEvents abi)
  let contract ← contractClass abiName abi
  let creation ← creationDeclarations abi
  let calls ← callDeclarations (changing abi)
  return events ++ [[contract]] ++ creation ++ calls

end Subgraph.Ethereum
