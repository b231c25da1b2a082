import Subgraph.Configuration
import Subgraph.Text.Blank
import Subgraph.Yaml.Reading

/-!
# Configuration — reading

A configuration is a YAML document in which every setting may be missing; a blank text has the
defaults.  It is looked for in a file of a fixed name, unless another one is given.
-/

namespace Subgraph

open Yaml Yaml.Reader

def LogSettings.reader : Reader LogSettings :=
  record ["level", "components", "json"] fun fields => do
    let components ← fields.withDefault "components" [] (entries text)
    return {
      level := ← fields.withDefault "level" "info" text
      components := Text.sortByName Prod.fst components
      json := ← fields.withDefault "json" false boolean }

/-- The log settings that a text holds. -/
def LogSettings.parse? (text : String) : Option LogSettings := Reader.parse? reader text

namespace Configuration

/-- The names of the settings. -/
def keys : List String :=
  ["outputDir", "sourceDir", "extension", "skipValidation", "skipNetworkValidation", "log"]

def reader : Reader Configuration := record keys fun fields => do
  return {
    outputDir := ⟨← fields.withDefault "outputDir" "generated" text⟩
    sourceDir? := (← fields.optional "sourceDir" text).map Path.mk
    extension := ← fields.withDefault "extension" "ts" text
    skipValidation := ← fields.withDefault "skipValidation" false boolean
    skipNetworks := ← fields.withDefault "skipNetworkValidation" false boolean
    log := ← fields.withDefault "log" {} LogSettings.reader }

/-- The configuration that a text holds. -/
def parse (text : String) : Outcome Configuration :=
  if text.toList.all Text.isBlank then .ok {}
  else match Reader.parse? reader text with
    | none => .error (.config .malformed)
    | some c => match c.problem? with
      | some defect => .error (.config defect)
      | none => .ok c

/-- The name of the file that is read when no other one is given. -/
def fileName : String := "chaingen.yaml"

/-- The configuration that a file holds. -/
def load (path : Path) : Program (Outcome Configuration) := do
  match ← Program.readText path with
  | .error failure => return .error (.config (.unreadable path failure))
  | .ok text => return parse text

/-- The configuration of the file that is given, or else of the one that is found in a directory;
the defaults if there is none. -/
def loadOrDefault (path? : Option Path) (dir : Path) : Program (Outcome Configuration) := do
  match path? with
  | some path => load path
  | none =>
    let path := dir.join ⟨fileName⟩
    if ← Program.isPresent path then load path else return .ok {}

end Configuration

end Subgraph
