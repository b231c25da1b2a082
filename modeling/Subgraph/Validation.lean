import Subgraph.Contract
import Subgraph.Manifest
import Subgraph.Report

/-!
# Validation — the rules for manifests

`Manifest.validate` looks for everything in a manifest that breaks a rule of a family.  Some rules
are the same for all families: names must be usable as names of files and directories, kinds and
networks must be those of the family, and so on.  Others belong to one family, about what
identifies a contract.
-/

namespace Subgraph

/-- How a manifest is checked. -/
structure BuildOptions where
  /-- The directory from which paths of the manifest are seen. -/
  sourceDir? : Option Path := none
  /-- Networks may have any name. -/
  skipNetworks : Bool := false
  deriving DecidableEq, Repr

namespace Entry

/-- Findings at one place. -/
def issuesAt (place : Place) (findings : List Finding) : List Issue :=
  findings.map (Issue.mk place)

def nameFindings (e : Entry) : List Finding :=
  (segmentProblem? e.name).toList.map (.badEntryName e.name)

def kindFindings (f : Family) (e : Entry) : List Finding :=
  if ¬ f.aliases.contains e.kind then [.badKind f e.kind]
  else if f.deprecatedAliases.contains e.kind then [.deprecatedKind f e.kind]
  else []

def networkFindings (f : Family) (options : BuildOptions) (e : Entry) : List Finding :=
  match e.network? with
  | none => []
  | some network =>
    if options.skipNetworks ∨ f.networks.contains network then [] else [.unknownNetwork f network]

/-- A handler key that entries of a family do not have is an issue at that key. -/
def handlerIssues (f : Family) (place : Place) (m : Mapping) : List Issue :=
  (m.handlers.filter (!f.handlers.contains ·)).map fun key =>
    ⟨place ++ [key], .unsupportedHandlers f key⟩

def versionFindings (m : Mapping) : List Finding :=
  match m.apiVersion? with
  | none => []
  | some version => (Semver.problem? version).toList.map (.badVersion version)

/-- Findings on the name of an interface, given the names before it. -/
def abiFindings (before : List String) (name : String) : List Finding :=
  (segmentProblem? name).toList.map (.badAbiName name)
    ++ if before.contains name then [.duplicateAbi name] else []

/-- Issues with the names of interfaces from the number `n` on, given the names before them. -/
def abiIssues (place : Place) (before : List String) (n : Nat) : List AbiEntry → List Issue
  | [] => []
  | abi :: abis =>
    issuesAt (place ++ [n.repr, "name"]) (abiFindings before abi.name)
      ++ abiIssues place (abi.name :: before) (n + 1) abis

/-- Findings on the interface that a source names. -/
def sourceAbiFindings (f : Family) (e : Entry) : List Finding :=
  match f.supportsAbis, e.source.abi? with
  | true, none => [.missingAbi]
  | true, some name => if (e.mapping.abi? name).isSome then [] else [.undeclaredAbi name]
  | false, some _ => [.ignoredAbi f]
  | false, none => []

/-- Findings on what should identify a contract. -/
def contractFindings (f : Family) (text? : Option String) : List Finding :=
  match text? with
  | none => []
  | some text => (f.contractProblem? text).toList.map (.badContract f text)

/-- Issues with what should identify a contract. -/
def contractIssues (f : Family) (place : Place) (isTemplate : Bool) (source : Source) :
    List Issue :=
  let address := place ++ ["address"]
  let account := place ++ ["account"]
  match f with
  | .ethereum =>
    if isTemplate then
      issuesAt address (source.address?.toList.map fun _ => .ignoredTemplateAddress)
    else issuesAt address (contractFindings f source.address?)
  | .near =>
    issuesAt account (if source.account?.isNone && !isTemplate then [.missingAccount] else [])
      ++ issuesAt account (contractFindings f source.account?)
      ++ issuesAt address (source.address?.toList.map fun _ => .ignoredAddress)
  | .tendermint => issuesAt address (contractFindings f source.address?)

/-- The issues of an entry at a place. -/
def issues (f : Family) (options : BuildOptions) (place : Place) (isTemplate : Bool) (e : Entry) :
    List Issue :=
  issuesAt (place ++ ["name"]) e.nameFindings
    ++ issuesAt (place ++ ["kind"]) (e.kindFindings f)
    ++ issuesAt (place ++ ["network"]) (e.networkFindings f options)
    ++ handlerIssues f (place ++ ["mapping"]) e.mapping
    ++ issuesAt (place ++ ["mapping", "apiVersion"]) (versionFindings e.mapping)
    ++ abiIssues (place ++ ["mapping", "abis"]) [] 0 e.mapping.abis
    ++ issuesAt (place ++ ["source", "abi"]) (e.sourceAbiFindings f)
    ++ contractIssues f (place ++ ["source"]) isTemplate e.source

end Entry

namespace Manifest

/-- The issues of entries that are listed under a key, from the number `n` on. -/
def entryIssues (f : Family) (options : BuildOptions) (key : String) (isTemplate : Bool) (n : Nat) :
    List Entry → List Issue
  | [] => []
  | e :: entries =>
    e.issues f options [key, n.repr] isTemplate
      ++ entryIssues f options key isTemplate (n + 1) entries

/-- What is wrong in a manifest, for a family. -/
def validate (f : Family) (options : BuildOptions) (m : Manifest) : Report where
  issues :=
    (if m.dataSources.isEmpty then [⟨["dataSources"], .noDataSource⟩] else [])
      ++ entryIssues f options "dataSources" false 0 m.dataSources
      ++ entryIssues f options "templates" true 0 m.templates

end Manifest

end Subgraph
