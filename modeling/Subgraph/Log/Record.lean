import Subgraph.Log.Filter
import Subgraph.Json.Printer
import Subgraph.Notice

/-!
# Log — records

Each notice of a run makes one record: a level, a target that tells which part of the program it
comes from, a message, and perhaps more fields.
-/

namespace Subgraph

namespace Log

/-- An entry of a log. -/
structure Record where
  level : Level
  target : String
  message : String
  /-- More fields by name. -/
  details : List (String × Json) := []
  deriving Repr

namespace Record

/-- All fields of a record. -/
def fields (r : Record) : Json := .object (("message", .string r.message) :: r.details)

/-- The names of all fields of a record. -/
def fieldNames (r : Record) : List String := "message" :: r.details.map Prod.fst

/-- A record that tells of a whole run. -/
def ofRun (level : Level) (message : String) (details : List (String × Json)) : Record :=
  ⟨level, "chaingen", message, details⟩

/-- A record that tells of details, from a part of the program. -/
def ofPart (target message : String) (details : List (String × Json)) : Record :=
  ⟨.debug, target, message, details⟩

end Record

/-- A count as a field. -/
def count (n : Nat) : Json := .number (toString n)

/-- The target of records about the generation of types. -/
def generationTarget : String := "chaingen_core::typegen"

end Log

open Log

namespace Progress

/-- The record of a piece of progress. -/
def record : Progress → Record
  | .begin title => .ofRun .info title []
  | .step subject detail => .ofRun .info ("  " ++ subject ++ " " ++ detail) []
  | .warn message => .ofRun .warn message []
  | .succeed title => .ofRun .info ("✔ " ++ title) []
  | .fail title error => .ofRun .error ("✖ " ++ title ++ ": " ++ error) []

end Progress

namespace Notice

/-- The record of a notice. -/
def record : Notice → Record
  | .progress event => event.record
  | .entered family state =>
    .ofPart generationTarget "type generation state"
      [("protocol", .string family.name), ("state", .string state.name)]
  | .loaded abi owner =>
    .ofPart generationTarget "loaded ABI" [("abi", .string abi), ("owner", .string owner.label)]
  | .generating abi owner =>
    .ofPart generationTarget "generating types"
      [("abi", .string abi), ("owner", .string owner.label)]
  | .contractRead abi events functions =>
    .ofPart "chaingen_evm::abi" "parsed Ethereum ABI"
      [("abi", .string abi), ("events", count events), ("functions", count functions)]
  | .definitionsRead abi events =>
    .ofPart "chaingen_cosmos::events" "parsed Cosmos event definitions"
      [("definitions", .string abi), ("events", count events)]
  | .runBegun family dataSources templates =>
    .ofRun .info "generating types"
      [("protocol", .string family.name), ("data_sources", count dataSources),
        ("templates", count templates)]
  | .flaw issue => .ofRun .error issue []

end Notice

namespace Log

/-- The records of some notices that pass a filter. -/
def records (filter : Filter) (notices : List Notice) : List Record :=
  (notices.map Notice.record).filter fun r => filter.passes r.target r.fieldNames r.level

end Log

end Subgraph
