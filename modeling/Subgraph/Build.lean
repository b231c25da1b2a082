import Subgraph.Generation
import Subgraph.Manifest.Reader
import Subgraph.Template

/-!
# Build — all generated files of a subgraph

A build reads a manifest, finds its family, checks it, makes the bindings of all interface files,
and writes one more file with a class for each template.  `Build.run` is the whole; `Build.check`
goes as far as the check.
-/

namespace Subgraph

/-- What a build has made. -/
structure BuildSummary where
  family : Family
  /-- The bindings, those of data sources first. -/
  artifacts : List Artifact
  /-- The file with the classes of the templates; none without templates. -/
  templates? : Option Artifact
  report : Report
  deriving Repr

/-- All files that a build has written, in the order of the manifest. -/
def BuildSummary.written (s : BuildSummary) : List Path :=
  (s.artifacts ++ s.templates?.toList).map Artifact.path

namespace Build

/-- Read the manifest at a path. -/
def readManifest (path : Path) : Action Manifest := do
  match ← Program.readText path with
  | .error failure => throw (.manifest (.unreadable path failure))
  | .ok text => Action.ofOutcome (Manifest.parse text)

/-- Read the manifest at a path, as a stage. -/
def loadManifest (path : Path) : Action Manifest :=
  Action.stage s!"Load subgraph from {path}" "Failed to load subgraph" (readManifest path)

/-- The family of a manifest. -/
def family (m : Manifest) : Outcome Family := m.protocol.require

/-! ### The check -/

/-- What is told of an issue. -/
def issueNotice (i : Issue) : Notice :=
  if i.isError then .flaw i.text else .progress (.warn i.text)

/-- Check a manifest, and tell of each issue. -/
def validate (c : Configuration) (path : Path) (f : Family) (m : Manifest) : Action Report := do
  let report := m.validate f (c.validation path)
  report.issues.forM fun i => Action.notify (issueNotice i)
  return report

/-- Read a manifest and check it. -/
def check (c : Configuration) (path : Path) : Action (Family × Report) := do
  let m ← loadManifest path
  let f ← Action.ofOutcome (family m)
  return (f, ← validate c path f m)

/-- Warn of the kinds in a manifest that are out of use. -/
def warnOfKinds (f : Family) (m : Manifest) : Action Unit :=
  (m.kinds.filter f.deprecatedAliases.contains).forM fun kind =>
    Action.tell (.warn s!"kind '{kind}' is deprecated, use '{f.name}' instead")

/-- The report on a manifest that must not have errors; empty if nothing is checked. -/
def requireValid (c : Configuration) (path : Path) (f : Family) (m : Manifest) : Action Report := do
  if c.skipValidation then
    warnOfKinds f m
    return {}
  else
    let report ← validate c path f m
    Action.stage "Validate subgraph manifest" "Failed to validate subgraph manifest"
      (Action.ofOutcome report.outcome)

/-! ### Bindings -/

/-- Make and write the bindings, if the family has any. -/
def writeBindings (c : Configuration) (path : Path) (f : Family) (m : Manifest)
    (pace : Pace := []) : Action (List Artifact) := do
  match f.generator (c.generation path) with
  | .present g => g.generate m pace
  | .unsupported =>
    Action.tell
      (.warn s!"{f.displayName} subgraphs have no typed bindings; skipping type generation")
    return []

/-! ### Classes of templates -/

/-- The import lines and the class of a template. -/
def templateParts (f : Family) (template : Entry) : Outcome (List String × String) := do
  let style ← f.requireTemplateStyle.within (.owner (.template template.name))
  return (style.importLines, Generated.declarationText [style.templateClass template.name])

/-- The text of the file with the classes of some templates.  An import that several need comes
once. -/
def templatesText (f : Family) (templates : List Entry) : Outcome String := do
  let parts ← templates.mapM (templateParts f)
  Generated.moduleText (parts.flatMap (·.1)).eraseDups (parts.map (·.2))

/-- The path of the file with the classes of the templates. -/
def templatesPath (c : Configuration) : Path := c.outputDir.join ⟨"templates." ++ c.extension⟩

/-- Make and write the file with the classes of the templates. -/
def writeTemplates (c : Configuration) (f : Family) (m : Manifest) : Action Artifact := do
  let artifact : Artifact := ⟨templatesPath c, ← Action.ofOutcome (templatesText f m.templates)⟩
  Action.writeFile artifact.path artifact.text
  Action.tell (.step "Write templates to" artifact.path.text)
  return artifact

/-- Make and write the file with the classes of the templates, if there are any, as a stage. -/
def writeTemplates? (c : Configuration) (f : Family) (m : Manifest) : Action (Option Artifact) := do
  if m.templates.isEmpty then return none
  else
    return some (← Action.stage "Generate types for data source templates"
      "Failed to generate types for data source templates" (writeTemplates c f m))

/-! ### The whole -/

/-- Make and write all files for the manifest at a path. -/
def run (c : Configuration) (path : Path) (pace : Pace := []) : Action BuildSummary := do
  let m ← loadManifest path
  let f ← Action.ofOutcome (family m)
  Action.notify (.runBegun f m.dataSources.length m.templates.length)
  let report ← requireValid c path f m
  let artifacts ← writeBindings c path f m pace
  let templates? ← writeTemplates? c f m
  return ⟨f, artifacts, templates?, report⟩

end Build

end Subgraph
