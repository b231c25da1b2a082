import Subgraph.Capability
import Subgraph.Program
import Subgraph.Generated.Module
import Subgraph.Ethereum.AbiReader
import Subgraph.Ethereum.Bindings
import Subgraph.Cosmos.Bindings

/-!
# Interface — interface files and what is made of them

The entries under `abis` of a mapping name interface files: contract interfaces for Ethereum, event
definitions for Cosmos chains.  Once read, an `Interface` knows its imports and its declarations;
nothing else of it is needed to write its bindings.
-/

namespace Subgraph

/-- An interface that has been read. -/
structure Interface where
  /-- The name that the manifest gives it. -/
  name : String
  file : Path
  /-- The import lines of its bindings. -/
  imports : List String
  /-- The declarations of its bindings, or why there are none. -/
  declarations : Except AbiError (List String)
  deriving Repr

namespace Interface

open Generated

def ofContract (name : String) (file : Path) (abi : Ethereum.Abi) : Interface where
  name := name
  file := file
  imports := [importLine Ethereum.bindingImports bindingLibrary]
  declarations := (Ethereum.declarations name abi).map fun groups => groups.map declarationText

def ofDefinitions (name : String) (file : Path) (events : List Cosmos.EventDefinition) :
    Interface where
  name := name
  file := file
  imports := [importLine Cosmos.bindingImports bindingLibrary]
  declarations := .ok (String.intercalate "\n" Cosmos.attributeLookup
    :: (Cosmos.eventClasses events).map fun c => declarationText [c])

/-- The text of the bindings of an interface. -/
def bindings (i : Interface) : Outcome String := do
  let declarations ← i.declarations.mapError .abi
  moduleText i.imports declarations

/-- How files are read as interfaces: from the name, the path and the text of a file. -/
abbrev Reader := String → Path → String → Except AbiError (Interface × Notice)

/-- Read a contract interface. -/
def readContract : Reader := fun name file text => do
  let abi ← Ethereum.Abi.parse text
  return (ofContract name file abi, .contractRead name abi.events.length abi.functions.length)

/-- Read event definitions. -/
def readDefinitions : Reader := fun name file text => do
  let events ← Cosmos.parseEvents text
  return (ofDefinitions name file events, .definitionsRead name events.length)

/-- Read the file of an interface. -/
def load (reader : Reader) (name : String) (file : Path) : Program (Except AbiError Interface) := do
  match ← Program.readText file with
  | .error failure => return .error (.unreadable failure)
  | .ok text =>
    match reader name file text with
    | .error e => return .error e
    | .ok (i, notice) =>
      Program.notify notice
      return .ok i

end Interface

namespace Family

/-- How a family's interface files are read. -/
def interfaceReader : Family → Capability Interface.Reader
  | .ethereum => .present Interface.readContract
  | .tendermint => .present Interface.readDefinitions
  | .near => .unsupported

/-- How a family's contract interfaces are read; event definitions are none. -/
def contractReader : Family → Capability Interface.Reader
  | .ethereum => .present Interface.readContract
  | .near | .tendermint => .unsupported

end Family

end Subgraph
