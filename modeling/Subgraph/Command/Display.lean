import Subgraph.Build
import Subgraph.Contract
import Subgraph.Json.Printer
import Subgraph.Text.Order

/-!
# Command — what commands print

The texts that commands print when they succeed, as lines.
-/

namespace Subgraph.Display

/-- The version of the program. -/
def version : String := "0.2.0"

/-- The program and its version. -/
def versionLine : String := s!"chaingen {version}"

def yesNo (value : Bool) : String := if value then "yes" else "no"

def commas (words : List String) : String := String.intercalate ", " words

/-- An object with its fields in the order of their names. -/
def sortedObject (fields : List (String × Json)) : Json :=
  .object (Text.sortByName Prod.fst fields)

def strings (texts : List String) : Json := .array (texts.map .string)

/-! ### Families -/

/-- A label, and what it labels in the twentieth column. -/
def labelled (label text : String) : String :=
  label ++ String.ofList (List.replicate (19 - label.length) ' ') ++ text

/-- A family as it is shown for a kind. -/
def familyLines (f : Family) (kind : String) : List String :=
  [labelled "Kind:" kind, labelled "Protocol:" s!"{f.name} ({f.displayName})"]
    ++ (if f.deprecatedAliases.contains kind then
      [labelled "" s!"'{kind}' is deprecated, use '{f.name}'"] else [])
    ++ [labelled "Kind aliases:" (commas f.aliases),
      labelled "Handlers:" (commas f.handlers),
      labelled "ABIs:" (yesNo f.supportsAbis),
      labelled "Events:" (yesNo f.supportsEvents),
      labelled "Type generation:" (yesNo f.interfaceReader.isPresent),
      labelled "Template codegen:" (yesNo f.templateStyle.isPresent),
      labelled "ABI loader:" (yesNo f.contractReader.isPresent),
      labelled "Networks:" (commas f.networks)]

/-- A family as JSON, for a kind. -/
def familyJson (f : Family) (kind : String) : Json := sortedObject [
  ("kind", .string kind),
  ("protocol", .string f.name),
  ("displayName", .string f.displayName),
  ("validKind", .bool (f.aliases.contains kind)),
  ("deprecated", .bool (f.deprecatedAliases.contains kind)),
  ("kindAliases", strings f.aliases),
  ("networks", strings f.networks),
  ("handlers", strings f.handlers),
  ("supportsAbis", .bool f.supportsAbis),
  ("supportsEvents", .bool f.supportsEvents),
  ("typeGenerator", .bool f.interfaceReader.isPresent),
  ("templateCodegen", .bool f.templateStyle.isPresent),
  ("abiLoader", .bool f.contractReader.isPresent)]

/-- A family in the list of all families. -/
def listedFamily (f : Family) : List String :=
  [s!"{f.name} ({f.displayName})", "  kinds:     " ++ commas f.aliases]
    ++ (if f.deprecatedAliases.isEmpty then []
      else ["  legacy:    " ++ commas f.deprecatedAliases])
    ++ [s!"  networks:  {f.networks.length}",
      "  bindings:  " ++ yesNo f.interfaceReader.isPresent
        ++ "   templates: " ++ yesNo f.templateStyle.isPresent
        ++ "   abis: " ++ yesNo f.contractReader.isPresent,
      ""]

/-- The list of all families. -/
def families : List String :=
  [s!"ChainGen v{version}", ""] ++ Family.all.flatMap listedFamily

/-! ### Reports -/

def issueJson (i : Issue) : Json := sortedObject [
  ("severity", .string i.severity.name),
  ("path", .string i.place.text),
  ("message", .string i.message)]

/-- The report on a manifest as JSON. -/
def reportJson (manifest : Path) (f : Family) (r : Report) : Json := sortedObject [
  ("manifest", .string manifest.text),
  ("protocol", .string f.name),
  ("issues", .array (r.issues.map issueJson))]

/-- An issue with a mark for how much it matters. -/
def issueLine (i : Issue) : String := (if i.isError then "✗ " else "! ") ++ i.text

/-- The report on a manifest. -/
def reportLines (manifest : Path) (f : Family) (r : Report) : List String :=
  r.issues.map issueLine
    ++ if r.hasErrors then []
      else [s!"✓ {manifest} is a valid {f.displayName} subgraph manifest"]

/-! ### Builds -/

/-- What a build has made. -/
def summaryLines (s : BuildSummary) : List String :=
  let written := s.written
  let files := if written.length = 1 then "file" else "files"
  let warnings := s.report.warnings.length
  [s!"✓ {s.family.name} types generated ({written.length} {files})"]
    ++ written.map (fun path => "  " ++ path.text)
    ++ if warnings = 0 then [] else [s!"  {warnings} manifest warning(s), see log output"]

end Subgraph.Display
