import Subgraph.Command
import Subgraph.Command.Display
import Subgraph.Command.Failure
import Subgraph.Configuration.Reader
import Subgraph.Log.Record

/-!
# Command — carrying out

`Invocation.perform` carries out a command.  It gives what is printed, why the command failed if it
did, and the settings of the log that were in force.
-/

namespace Subgraph

/-- What comes of a command. -/
structure CommandResult where
  /-- The lines that are printed. -/
  lines : List String := []
  failure? : Option Failure := none
  deriving Repr

namespace CommandResult

/-- The text that is printed. -/
def stdout (r : CommandResult) : String := String.join (r.lines.map (· ++ "\n"))

/-- What the program tells its caller: zero for success. -/
def exitCode (r : CommandResult) : Nat := if r.failure?.isSome then 1 else 0

def ofFailure (failure : Failure) : CommandResult := { failure? := some failure }

end CommandResult

namespace Command

/-- The family of a kind, or of its own name. -/
def familyOf? (kind : String) : Option Family :=
  (Protocol.resolve kind).family?.or (Family.ofName? kind)

def resolveKind (kind : String) (json : Bool) : CommandResult :=
  match familyOf? kind with
  | none => .ofFailure (.noFamily kind)
  | some f =>
    { lines := if json then [(Display.familyJson f kind).pretty] else Display.familyLines f kind }

/-- Make all files for a manifest. -/
def build (c : Configuration) (manifest : Path) : Program CommandResult := do
  match ← (Build.run c manifest).run with
  | .ok summary => return { lines := Display.summaryLines summary }
  | .error e => return .ofFailure (.build manifest e)

/-- Check a manifest. -/
def check (c : Configuration) (manifest : Path) (json : Bool) : Program CommandResult := do
  match ← (Build.check c manifest).run with
  | .error e => return .ofFailure (.check e)
  | .ok (f, report) =>
    let errors := report.errors.length
    return {
      lines := if json then [(Display.reportJson manifest f report).pretty]
        else Display.reportLines manifest f report
      failure? := if errors = 0 then none else some (.invalid manifest errors) }

/-- Carry out a command under a configuration. -/
def perform (c : Configuration) : Command → Program CommandResult
  | .codegen manifest outputDir? sourceDir? skipValidation skipNetworks =>
    let c := { c with
      outputDir := outputDir?.getD c.outputDir
      sourceDir? := sourceDir?.or c.sourceDir?
      skipValidation := c.skipValidation || skipValidation
      skipNetworks := c.skipNetworks || skipNetworks }
    build c manifest
  | .validate manifest skipNetworks json =>
    check { c with skipNetworks := c.skipNetworks || skipNetworks } manifest json
  | .resolve kind json => return resolveKind kind json
  | .protocols => return { lines := Display.families }

end Command

namespace Invocation

/-- The log settings of a configuration, as the general options change them. -/
def logSettings (i : Invocation) (c : Configuration) : LogSettings where
  level := if i.verbose then "debug" else c.log.level
  components := c.log.components
  json := c.log.json || i.jsonLogs

/-- Carry out a command in a directory; without a configuration nothing is logged. -/
def perform (i : Invocation) (dir : Path) : Program (CommandResult × Option LogSettings) := do
  match ← Configuration.loadOrDefault i.config? dir with
  | .error e => return (.ofFailure (.configuration e), none)
  | .ok c => return (← i.command.perform c, some (i.logSettings c))

end Invocation

/-- The records of a run under some settings. -/
def LogSettings.records (s : LogSettings) (notices : List Notice) : List Log.Record :=
  Log.records (.ofText s.directives) notices

end Subgraph
