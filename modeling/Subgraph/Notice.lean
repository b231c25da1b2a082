import Subgraph.Owner
import Subgraph.Progress
import Subgraph.Protocol

/-!
# Notice — what a run tells while it works

A notice is progress, or something that only a log shows.
-/

namespace Subgraph

/-- Where the generation of types stands. -/
inductive GenerationState where
  | idle
  | loading
  | generating
  | done
  | failed
  deriving DecidableEq, Repr

def GenerationState.name : GenerationState → String
  | .idle => "Idle"
  | .loading => "LoadingAbis"
  | .generating => "GeneratingArtifacts"
  | .done => "Done"
  | .failed => "Failed"

/-- What a run tells. -/
inductive Notice where
  | progress (event : Progress)
  /-- The generation of types has come to a state. -/
  | entered (family : Family) (state : GenerationState)
  /-- An interface has been loaded for an owner. -/
  | loaded (abi : String) (owner : Owner)
  /-- The bindings of an interface are about to be made. -/
  | generating (abi : String) (owner : Owner)
  /-- A contract interface has been read, with so many events and functions. -/
  | contractRead (abi : String) (events functions : Nat)
  /-- Event definitions have been read. -/
  | definitionsRead (abi : String) (events : Nat)
  /-- A run for a manifest with so many data sources and templates begins. -/
  | runBegun (family : Family) (dataSources templates : Nat)
  /-- The manifest has an error. -/
  | flaw (issue : String)
  deriving DecidableEq, Repr

namespace Notice

def progress? : Notice → Option Progress
  | .progress event => some event
  | _ => none

end Notice

end Subgraph
