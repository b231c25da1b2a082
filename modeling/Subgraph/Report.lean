import Subgraph.Error
import Subgraph.Protocol
import Subgraph.Semver

/-!
# Report — what is found wrong in a manifest

A `Finding` is one rule that a manifest breaks; an `Issue` is a finding at a place.  A `Report`
holds all issues of a manifest in the order in which they were found.  Some findings are mere
warnings: `Report.outcome` is an error only if there are others.
-/

namespace Subgraph

/-- How much a finding matters. -/
inductive Severity where
  | error
  | warning
  deriving DecidableEq, Repr

def Severity.name : Severity → String
  | .error => "error"
  | .warning => "warning"

/-- What is wrong in a manifest. -/
inductive Finding where
  | noDataSource
  /-- The name of an entry cannot be that of a directory. -/
  | badEntryName (name : String) (problem : SegmentProblem)
  /-- The kind is no alias of the family. -/
  | badKind (family : Family) (kind : String)
  | deprecatedKind (family : Family) (kind : String)
  | unknownNetwork (family : Family) (network : String)
  /-- Entries of the family have no handlers under this key. -/
  | unsupportedHandlers (family : Family) (key : String)
  | badVersion (version : String) (problem : Semver.Problem)
  /-- The name of an interface cannot be that of a file. -/
  | badAbiName (name : String) (problem : SegmentProblem)
  | duplicateAbi (name : String)
  | missingAbi
  /-- The mapping has no interface of this name. -/
  | undeclaredAbi (name : String)
  /-- A source names an interface, but the family has none. -/
  | ignoredAbi (family : Family)
  | missingAccount
  /-- A text does not identify a contract of the family. -/
  | badContract (family : Family) (text reason : String)
  /-- A template has an address, which data sources get when they are made. -/
  | ignoredTemplateAddress
  /-- A source has an address, but the family has accounts. -/
  | ignoredAddress
  | described (severity : Severity) (text : String)
  deriving DecidableEq, Repr

namespace Finding

/-- Old kinds, and what is ignored, are no errors. -/
def severity : Finding → Severity
  | .deprecatedKind _ _ | .ignoredAbi _ | .ignoredTemplateAddress | .ignoredAddress => .warning
  | .described severity _ => severity
  | _ => .error

/-- What identifies a contract of a family, as messages have it. -/
def contractNoun : Family → String
  | .ethereum => "contract address"
  | .near => "account"
  | .tendermint => "address"

def commas (words : List String) : String := String.intercalate ", " words

def message : Finding → String
  | .noDataSource => "the manifest must declare at least one data source"
  | .badEntryName name problem =>
    s!"'{name}' cannot be used as an output directory: {problem.message}"
  | .badKind family kind =>
    s!"'{kind}' is not a valid {family.name} data source kind "
      ++ s!"(expected one of: {commas family.aliases})"
  | .deprecatedKind family kind => s!"'{kind}' is deprecated, use '{family.name}' instead"
  | .unknownNetwork family network => s!"'{network}' is not a known {family.name} network"
  | .unsupportedHandlers family key =>
    s!"{family.name} data sources do not support '{key}' "
      ++ s!"(supported: {commas family.handlers})"
  | .badVersion version problem => s!"'{version}' is not a valid version: {problem.message}"
  | .badAbiName name problem =>
    s!"'{name}' cannot be used as an output file name: {problem.message}"
  | .duplicateAbi name => s!"duplicate ABI name '{name}'"
  | .missingAbi => "missing ABI name"
  | .undeclaredAbi name => s!"ABI '{name}' is not declared in mapping > abis"
  | .ignoredAbi family => s!"{family.name} data sources have no ABIs; 'abi' is ignored"
  | .missingAccount => "missing account"
  | .badContract family text reason => s!"invalid {contractNoun family} '{text}': {reason}"
  | .ignoredTemplateAddress =>
    "templates get their address at creation time; 'address' is ignored"
  | .ignoredAddress => "NEAR data sources are keyed by 'account'; 'address' is ignored"
  | .described _ text => text

end Finding

/-- Where something is in a manifest: keys and positions, outermost first. -/
abbrev Place := List String

/-- A place as messages have it. -/
def Place.text (place : Place) : String := String.intercalate " > " place

/-- A finding at a place. -/
structure Issue where
  place : Place
  finding : Finding
  deriving DecidableEq, Repr

namespace Issue

def severity (i : Issue) : Severity := i.finding.severity

def message (i : Issue) : String := i.finding.message

/-- The issue as messages have it. -/
def text (i : Issue) : String := i.place.text ++ ": " ++ i.message

def isError (i : Issue) : Bool := i.severity == .error

end Issue

/-- All issues of a manifest. -/
structure Report where
  issues : List Issue := []
  deriving DecidableEq, Repr

namespace Report

def errors (r : Report) : List Issue := r.issues.filter Issue.isError

def warnings (r : Report) : List Issue := r.issues.filter (!·.isError)

def hasErrors (r : Report) : Bool := !r.errors.isEmpty

def isEmpty (r : Report) : Bool := r.issues.isEmpty

/-- The report, when it has nothing but warnings. -/
def outcome (r : Report) : Outcome Report :=
  if r.errors = [] then .ok r else .error (.manifestInvalid r.errors.length)

theorem outcome_eq_ok_iff {r s : Report} : r.outcome = .ok s ↔ r.errors = [] ∧ r = s := by
  grind [outcome]

end Report

end Subgraph
