import Subgraph.Text.Distinct

/-!
# Ethereum — contract interfaces

The interface of a contract: its functions and events, each with typed parameters, and its
constructor.  Functions and events stand in the order of their names; those that share a name keep
the order of the file.

`Function.signature` names a function together with its types, in which tuples are written out and
the short names of integers are replaced by the full ones.
-/

namespace Subgraph.Ethereum

/-- A parameter of an event, a function or a constructor; that of a tuple has components. -/
inductive Param where
  | mk (name type : String) (components : List Param)
  deriving Repr, Inhabited

namespace Param

def name : Param → String
  | mk name _ _ => name

def type : Param → String
  | mk _ type _ => type

def components : Param → List Param
  | mk _ _ components => components

end Param

/-- What a function may do to the state of the contract. -/
inductive Mutability where
  | pure
  | view
  | nonpayable
  | payable
  deriving DecidableEq, Repr, Inhabited

namespace Mutability

def name : Mutability → String
  | .pure => "pure"
  | .view => "view"
  | .nonpayable => "nonpayable"
  | .payable => "payable"

def ofName? (text : String) : Option Mutability :=
  [pure, view, nonpayable, payable].find? fun m => m.name == text

end Mutability

structure Event where
  name : String
  inputs : List Param
  deriving Repr, Inhabited

structure Function where
  name : String
  inputs : List Param
  outputs : List Param
  mutability : Mutability
  deriving Repr, Inhabited

namespace Function

/-- The function leaves the state of the contract as it is. -/
def isReadOnly (f : Function) : Bool := f.mutability == .view || f.mutability == .pure

/-- The function can be called for its result. -/
def isCallable (f : Function) : Bool := f.isReadOnly && !f.outputs.isEmpty

end Function

/-- The interface of a contract. -/
structure Abi where
  /-- The parameters of the constructor, if there is one. -/
  constructor? : Option (List Param)
  functions : List Function
  events : List Event
  deriving Repr, Inhabited

/-! ### Signatures -/

/-- The full name of a type that is no tuple. -/
def fullTypeName (type : String) : String :=
  let base := type.toList.takeWhile (· != '[')
  let groups := String.ofList (type.toList.dropWhile (· != '['))
  if base = "uint".toList then "uint256" ++ groups
  else if base = "int".toList then "int256" ++ groups
  else type

/-- The rest of a type that begins as a tuple's does. -/
def tupleGroups? (type : String) : Option String :=
  if "tuple".toList.isPrefixOf type.toList then some (String.ofList (type.toList.drop 5)) else none

/-- A type as signatures have it, given those of its components. -/
def canonicalWith (type : String) (components : String) : String :=
  match tupleGroups? type with
  | some groups => "(" ++ components ++ ")" ++ groups
  | none => fullTypeName type

mutual

/-- The type of a parameter as signatures have it. -/
def Param.canonical : Param → String
  | .mk _ type components => canonicalWith type (canonicalList components)

/-- The types of parameters, with commas between them. -/
def canonicalList : List Param → String
  | [] => ""
  | [p] => p.canonical
  | p :: q :: ps => p.canonical ++ "," ++ canonicalList (q :: ps)

end

/-- A type with components as signatures have it. -/
def canonicalType (type : String) (components : List Param) : String :=
  canonicalWith type (canonicalList components)

/-- The name of a function with its types. -/
def Function.signature (f : Function) : String :=
  f.name ++ "(" ++ canonicalList f.inputs ++ "):(" ++ canonicalList f.outputs ++ ")"

end Subgraph.Ethereum
