import Subgraph.AbiReference
import Subgraph.Configuration
import Subgraph.Interface
import Subgraph.Together

/-!
# Generation — typed bindings for interface files

A `Generator` makes the bindings of all interface files of a manifest.  It goes through states:

1. It loads the interfaces of the data sources, and then those of the templates, in the order of the
   manifest.  It stops at the first that cannot be loaded.
2. Only then does it write: the bindings of each interface go into a file of their own.  Those of
   data sources are made and written one after the other, in the same order; those of templates are
   under way together, at a pace that is given.  It stops at the first that cannot be made or
   written.

Each half of a step is a stage, so an error says where it came from.
-/

namespace Subgraph

/-- An interface together with the reference it was loaded for. -/
structure LoadedAbi where
  reference : AbiReference
  interface : Interface
  deriving Repr

/-- A generated file. -/
structure Artifact where
  path : Path
  text : String
  deriving DecidableEq, Repr

/-- What makes the bindings for a family. -/
structure Generator where
  family : Family
  options : GenerationOptions
  reader : Interface.Reader

/-- The generator of a family. -/
def Family.generator (f : Family) (options : GenerationOptions) : Capability Generator :=
  f.interfaceReader.map fun reader => ⟨f, options, reader⟩

/-- The state after some notices. -/
def GenerationState.after (state : GenerationState) (notices : List Notice) : GenerationState :=
  notices.foldl (fun state notice =>
    match notice with
    | .entered _ next => next
    | _ => state) state

namespace Generator

/-! ### Loading -/

/-- Load one interface, and tell of it as a step. -/
def loadAbi (g : Generator) (step : String) (r : AbiReference) : Action LoadedAbi := do
  match ← Interface.load g.reader r.abi r.file with
  | .error e => throw (.abiLoad r.owner.label r.abi r.file e)
  | .ok i =>
    Action.notify (.loaded r.abi r.owner)
    Action.tell (.step step r.file.text)
    return ⟨r, i⟩

/-- The references of a generator, as seen from its source directory. -/
def located (g : Generator) (references : List AbiReference) : List AbiReference :=
  references.map (·.seenFrom g.options.sourceDir?)

/-- Load the interfaces of the data sources. -/
def loadDataSourceAbis (g : Generator) (m : Manifest) : Action (List LoadedAbi) :=
  (g.located m.dataSourceAbis).mapM (g.loadAbi "Load contract ABI from")

/-- Load the interfaces of the templates. -/
def loadTemplateAbis (g : Generator) (m : Manifest) : Action (List LoadedAbi) :=
  (g.located m.templateAbis).mapM (g.loadAbi "Load data source template ABI from")

/-! ### Writing -/

/-- The bindings of an interface as a file. -/
def render (g : Generator) (loaded : LoadedAbi) : Outcome Artifact := do
  let r := loaded.reference
  let text ← loaded.interface.bindings.mapError (.generation r.abi r.file)
  let path ← r.outputPath g.options.outputDir g.options.extension
  return ⟨path, text⟩

/-- Render an interface, and tell of it. -/
def renderAction (g : Generator) (loaded : LoadedAbi) : Action Artifact := do
  Action.notify (.generating loaded.reference.abi loaded.reference.owner)
  Action.ofOutcome (g.render loaded)

/-- Make and write the bindings of an interface. -/
def writeBindings (g : Generator) (loaded : LoadedAbi) : Action Artifact := do
  let artifact ← g.renderAction loaded
  Action.writeFile artifact.path artifact.text
  Action.tell (.step "Write types to" artifact.path.text)
  return artifact

/-- Make and write the bindings of some interfaces, one after the other. -/
def writeAll (g : Generator) (loaded : List LoadedAbi) : Action (List Artifact) :=
  loaded.mapM g.writeBindings

/-- Make and write the bindings of some interfaces, all under way together. -/
def writeTogether (g : Generator) (pace : Pace) (loaded : List LoadedAbi) :
    Action (List Artifact) :=
  Action.together pace (loaded.map fun l => (g.writeBindings l).run)

/-! ### The whole -/

/-- Tell of a state. -/
def enter (g : Generator) (state : GenerationState) : Action Unit :=
  Action.notify (.entered g.family state)

/-- The stages between the first state and the last. -/
def work (g : Generator) (m : Manifest) (pace : Pace := []) : Action (List Artifact) := do
  let abis ← Action.stage "Load contract ABIs" "Failed to load contract ABIs"
    (g.loadDataSourceAbis m)
  let templateAbis ← Action.stage "Load data source template ABIs"
    "Failed to load data source template ABIs" (g.loadTemplateAbis m)
  g.enter .generating
  let artifacts ← Action.stage "Generate types for contract ABIs"
    "Failed to generate types for contract ABIs" (g.writeAll abis)
  let templateArtifacts ← Action.stage "Generate types for data source template ABIs"
    "Failed to generate types for data source template ABIs" (g.writeTogether pace templateAbis)
  return artifacts ++ templateArtifacts

/-- Make and write all bindings of a manifest. -/
def generate (g : Generator) (m : Manifest) (pace : Pace := []) : Action (List Artifact) :=
    ExceptT.mk do
  Program.notify (.entered g.family .loading)
  let r ← (g.work m pace).run
  Program.notify (.entered g.family (if r.toBool then .done else .failed))
  return r

end Generator

end Subgraph
