import Subgraph.Protocol
import Subgraph.Text.Quoted
import Subgraph.Text.Lowercase

/-!
# Scaffold — first versions of manifests and mappings

For a new contract a family proposes the source and the mapping of a data source, as fragments of a
manifest, and a mapping file with an empty handler.
-/

namespace Subgraph

/-- The contract that a subgraph is begun for. -/
structure NewContract where
  name : String
  /-- The address or account. -/
  address? : Option String
  startBlock? : Option Nat
  deriving DecidableEq, Repr

namespace NewContract

/-- Lines as a text, each with its end. -/
def block (lines : List String) : String := String.join (lines.map (· ++ "\n"))

/-- The line for a start block, if there is one. -/
def startLine (c : NewContract) : List String :=
  c.startBlock?.toList.map fun n => s!"  startBlock: {n}"

/-- The mapping file for a contract. -/
def mappingFile (c : NewContract) : String := s!"./src/{Text.lowercase c.name}.ts"

/-- The source of a data source for a contract. -/
def source (f : Family) (c : NewContract) : String :=
  match f with
  | .ethereum =>
    block (["source:"]
      ++ c.address?.toList.map (fun address => s!"  address: {Text.quote address}")
      ++ [s!"  abi: {c.name}"]
      ++ c.startLine)
  | .near =>
    block (["source:", s!"  account: {Text.quote (c.address?.getD c.name)}"] ++ c.startLine)
  | .tendermint =>
    block (["source:"]
      ++ c.address?.toList.map (fun address => s!"  address: {address}")
      ++ [s!"  startBlock: {c.startBlock?.getD 0}"])

/-- The mapping of a data source for a contract. -/
def mapping (f : Family) (c : NewContract) : String :=
  match f with
  | .ethereum => block [
      "mapping:",
      "  kind: ethereum/events",
      "  apiVersion: 0.0.7",
      "  language: wasm/assemblyscript",
      "  entities: []",
      "  abis:",
      s!"    - name: {c.name}",
      s!"      file: ./abis/{c.name}.json",
      "  eventHandlers: []",
      s!"  file: {c.mappingFile}"]
  | .near => block [
      "mapping:",
      "  apiVersion: 0.0.5",
      "  language: wasm/assemblyscript",
      "  entities: []",
      "  receiptHandlers:",
      "    - handler: handleReceipt",
      s!"  file: {c.mappingFile}"]
  | .tendermint => block [
      "mapping:",
      "  apiVersion: 0.0.7",
      "  language: wasm/assemblyscript",
      "  entities: []",
      "  blockHandlers:",
      "    - handler: handleBlock",
      s!"  file: {c.mappingFile}"]

end NewContract

/-- The first mapping file of a family. -/
def Family.placeholderHandlers (f : Family) : String :=
  let (library, function) : String × String := match f with
    | .ethereum => ("ethereum", "handleBlock(block: ethereum.Block)")
    | .near => ("near", "handleReceipt(receipt: near.ReceiptWithOutcome)")
    | .tendermint => ("cosmos", "handleBlock(block: cosmos.Block)")
  NewContract.block [
    "import \x7b " ++ library ++ " \x7d from \"@graphprotocol/graph-ts\";",
    "",
    "export function " ++ function ++ ": void \x7b\x7d"]

end Subgraph
