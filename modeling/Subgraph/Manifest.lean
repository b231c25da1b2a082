import Subgraph.Path
import Subgraph.Protocol
import Subgraph.Yaml.Value

/-!
# Manifest — what a subgraph is made of

A manifest lists data sources and templates.  Both are entries of one form: where the data come
from, and the mapping that handles them.  Of a mapping only some keys matter here; the others are
kept in the order of the text, for among them are the lists of handlers.
-/

namespace Subgraph

/-- An interface file that a mapping names. -/
structure AbiEntry where
  name : String
  file : Path
  deriving DecidableEq, Repr, Inhabited

/-- Where the data of an entry come from. -/
structure Source where
  /-- The address of a contract. -/
  address? : Option String := none
  /-- The name of the interface of the contract. -/
  abi? : Option String := none
  /-- The account, on chains that have accounts. -/
  account? : Option String := none
  startBlock? : Option Nat := none
  deriving DecidableEq, Repr, Inhabited

/-- What handles the data of an entry. -/
structure Mapping where
  kind? : Option String := none
  apiVersion? : Option String := none
  language? : Option String := none
  entities : List String := []
  abis : List AbiEntry := []
  file? : Option Path := none
  /-- All other keys with their values. -/
  others : List (String × Yaml.Value) := []
  deriving Repr, Inhabited

namespace Mapping

/-- The mark of a key for handlers is its end. -/
def isHandlerKey (key : String) : Bool := "Handlers".toList.isSuffixOf key.toList

/-- The keys for handlers. -/
def handlers (m : Mapping) : List String := (m.others.map (·.1)).filter isHandlerKey

/-- The interface file of this name. -/
def abi? (m : Mapping) (name : String) : Option AbiEntry := m.abis.find? (·.name == name)

end Mapping

/-- A data source, or a template from which data sources are made. -/
structure Entry where
  kind : String
  name : String
  network? : Option String := none
  source : Source := {}
  mapping : Mapping
  deriving Repr, Inhabited

/-- A manifest. -/
structure Manifest where
  specVersion? : Option String := none
  description? : Option String := none
  /-- The file of the schema. -/
  schema? : Option Path := none
  dataSources : List Entry := []
  templates : List Entry := []
  deriving Repr, Inhabited

namespace Manifest

/-- The kinds of all data sources, and then of all templates. -/
def kinds (m : Manifest) : List String := m.dataSources.map (·.kind) ++ m.templates.map (·.kind)

/-- The identity of a subgraph is that of its first kind. -/
def protocol (m : Manifest) : Protocol := .ofKinds m.kinds

end Manifest

end Subgraph
