import Subgraph.Error
import Subgraph.Manifest
import Subgraph.Yaml.Reading

/-!
# Manifest — reading

A manifest is a YAML document.  A missing list is empty, and a missing source has no fields; the
kind, the name and the mapping of an entry must be there.  A version may be written without quotes,
like a number: its text is then that of the number.
-/

namespace Subgraph

open Yaml Yaml.Reader

namespace Manifest

/-! ### Parts -/

/-- A path. -/
def readPath : Reader Path := fun room node => Path.mk <$> text room node

/-- A version: a text or a number. -/
def readVersion : Reader (Option String) := fun room node => do
  match ← optional generic room node with
  | none | some .null => return none
  | some (.string text) => return some text
  | some (.number number) => return some number.text
  | some (.bool _) | some (.sequence _) | some (.mapping _) => failure

def readAbi : Reader AbiEntry := record ["name", "file"] fun fields => do
  return { name := ← fields.required "name" text, file := ← fields.required "file" readPath }

/-- The keys of a source. -/
def sourceKeys : List String := ["address", "abi", "account", "startBlock"]

def readSource : Reader Source := record sourceKeys fun fields => do
  return {
    address? := ← fields.optional "address" text
    abi? := ← fields.optional "abi" text
    account? := ← fields.optional "account" text
    startBlock? := ← fields.optional "startBlock" natural }

/-- The keys of a mapping that have a meaning of their own. -/
def mappingKeys : List String := ["kind", "apiVersion", "language", "entities", "abis", "file"]

def readMapping : Reader Mapping := record mappingKeys fun fields => do
  return {
    kind? := ← fields.optional "kind" text
    apiVersion? := ← fields.withDefault "apiVersion" none readVersion
    language? := ← fields.optional "language" text
    entities := ← fields.withDefault "entities" [] (list text)
    abis := ← fields.withDefault "abis" [] (list readAbi)
    file? := ← fields.optional "file" readPath
    others := ← fields.others mappingKeys }

/-- The keys of an entry. -/
def entryKeys : List String := ["kind", "name", "network", "source", "mapping"]

def readEntry : Reader Entry := record entryKeys fun fields => do
  return {
    kind := ← fields.required "kind" text
    name := ← fields.required "name" text
    network? := ← fields.optional "network" text
    source := ← fields.withDefault "source" {} readSource
    mapping := ← fields.required "mapping" readMapping }

/-- The file of a schema. -/
def readSchema : Reader Path := record ["file"] fun fields => fields.required "file" readPath

def reader : Reader Manifest :=
  record ["specVersion", "description", "schema", "dataSources", "templates"] fun fields => do
    return {
      specVersion? := ← fields.withDefault "specVersion" none readVersion
      description? := ← fields.optional "description" text
      schema? := ← fields.optional "schema" readSchema
      dataSources := ← fields.withDefault "dataSources" [] (list readEntry)
      templates := ← fields.withDefault "templates" [] (list readEntry) }

/-! ### Whole texts -/

/-- The manifest that a text holds. -/
def parse (text : String) : Outcome Manifest :=
  match Reader.parse? reader text with
  | some manifest => .ok manifest
  | none => .error (.manifest .malformed)

end Manifest

end Subgraph
