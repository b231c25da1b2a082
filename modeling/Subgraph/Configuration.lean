import Subgraph.Program
import Subgraph.Validation
import Subgraph.Text.Order

/-!
# Configuration — how the program is set up

A configuration says where the bindings go, how manifests are checked, and what is logged.  Each
setting has a default.  `Configuration.problem?` says what a configuration may not be.
-/

namespace Subgraph

/-- What is logged. -/
structure LogSettings where
  level : String := "info"
  /-- The levels of parts of the program, in the order of their names. -/
  components : List (String × String) := []
  /-- The records are written as JSON. -/
  json : Bool := false
  deriving DecidableEq, Repr, Inhabited

/-- The filter of the records, as text; a part of the program is known there by a target, which has
no hyphens. -/
def LogSettings.directives (s : LogSettings) : String :=
  let target := fun (name : String) => name.map fun c => if c = '-' then '_' else c
  s.components.foldl (fun text (name, level) => text ++ "," ++ target name ++ "=" ++ level) s.level

/-- Where interface files are found and bindings go. -/
structure GenerationOptions where
  /-- The directory from which paths of the manifest are seen. -/
  sourceDir? : Option Path := none
  outputDir : Path
  /-- The extension of the files with bindings. -/
  extension : String := "ts"
  deriving DecidableEq, Repr

/-- The settings of the program. -/
structure Configuration where
  outputDir : Path := ⟨"generated"⟩
  /-- The directory from which paths of the manifest are seen; that of the manifest, if not set. -/
  sourceDir? : Option Path := none
  extension : String := "ts"
  skipValidation : Bool := false
  skipNetworks : Bool := false
  log : LogSettings := {}
  deriving DecidableEq, Repr, Inhabited

namespace Configuration

/-- An extension has text, and neither points nor separators. -/
def isExtension (text : String) : Bool :=
  !text.isEmpty && text.toList.all fun c => c != '.' && c != '/' && c != '\\'

/-- What keeps a configuration from being used. -/
def problem? (c : Configuration) : Option ConfigDefect :=
  if ¬ isExtension c.extension then some (.badExtension c.extension)
  else if c.outputDir.text = "" then some .noOutputDir
  else none

/-- The directory from which the paths of a manifest are seen. -/
def sourceDirFor (c : Configuration) (manifest : Path) : Option Path :=
  c.sourceDir?.or manifest.directory?

/-- The options for the bindings of a manifest. -/
def generation (c : Configuration) (manifest : Path) : GenerationOptions where
  sourceDir? := c.sourceDirFor manifest
  outputDir := c.outputDir
  extension := c.extension

/-- The options for the check of a manifest. -/
def validation (c : Configuration) (manifest : Path) : BuildOptions where
  sourceDir? := c.sourceDirFor manifest
  skipNetworks := c.skipNetworks

end Configuration

end Subgraph
