import Subgraph.Error
import Subgraph.Manifest

/-!
# AbiReference — the interface files of a manifest

A reference says which file is to be loaded, under which name, and for whom.  Its bindings go into a
directory of their owner.  No name may lead out of that directory: `AbiReference.outputPath` refuses
a name that is not a plain path component.
-/

namespace Subgraph

/-- A path of a manifest as seen from a directory. -/
def Path.seenFrom (path : Path) (dir? : Option Path) : Path :=
  match dir? with
  | some dir => dir.join path
  | none => path

/-- The directory for the bindings of an owner, in the directory of all bindings. -/
def Owner.outputDir (owner : Owner) (root : Path) : Path :=
  match owner with
  | .dataSource name => root.join ⟨name⟩
  | .template name => (root.join ⟨"templates"⟩).join ⟨name⟩

/-- An interface file to be loaded. -/
structure AbiReference where
  owner : Owner
  /-- The name of the interface in the manifest. -/
  abi : String
  file : Path
  deriving DecidableEq, Repr

namespace AbiReference

/-- The name of the file with the bindings. -/
def fileName (r : AbiReference) (extension : String) : String := r.abi ++ "." ++ extension

/-- The names that the path of the bindings is made of, or that its last part is. -/
def names (r : AbiReference) (extension : String) : List String :=
  [r.owner.name, r.abi, r.fileName extension]

/-- The first of some names that is not a plain path component. -/
def badName? (names : List String) : Option (String × SegmentProblem) :=
  names.findSome? fun name => (segmentProblem? name).map fun problem => (name, problem)

/-- The path of the bindings. -/
def outputPath (r : AbiReference) (root : Path) (extension : String) : Outcome Path :=
  match badName? (r.names extension) with
  | some (name, problem) => .error (.config (.badName r.owner r.abi name problem))
  | none => .ok ((r.owner.outputDir root).join ⟨r.fileName extension⟩)

end AbiReference

/-- The references of one entry. -/
def Entry.abiReferences (e : Entry) (owner : Owner) : List AbiReference :=
  e.mapping.abis.map fun abi => ⟨owner, abi.name, abi.file⟩

namespace Manifest

/-- The references of the data sources, in the order of the manifest. -/
def dataSourceAbis (m : Manifest) : List AbiReference :=
  m.dataSources.flatMap fun e => e.abiReferences (.dataSource e.name)

/-- The references of the templates, in the order of the manifest. -/
def templateAbis (m : Manifest) : List AbiReference :=
  m.templates.flatMap fun e => e.abiReferences (.template e.name)

end Manifest

/-- A reference as seen from a directory. -/
def AbiReference.seenFrom (r : AbiReference) (dir? : Option Path) : AbiReference :=
  { r with file := r.file.seenFrom dir? }

end Subgraph
