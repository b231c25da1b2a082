import Subgraph.Command.Run

/-!
# Main — the program

Carries out the command that the arguments name, on the files of the system.  Everything is decided
by `Invocation.parse` and `Invocation.perform`.
-/

namespace Subgraph

variable {α : Type}

/-- The number of an error of the system; some calls give it with the sign changed. -/
def errorNumber (code : UInt32) : UInt32 := min code (0 - code)

/-- Why the system could not read or write a file. -/
def FileFailure.ofSystem (e : IO.Error) : FileFailure :=
  match e with
  | .noFileOrDirectory _ _ _ => .notFound
  | .alreadyExists _ _ _ => .alreadyExists
  | .inappropriateType _ code _ | .invalidArgument _ code _ =>
    match errorNumber code with
    | 20 => .notDirectory
    | 21 => .isDirectory
    | 36 => .nameTooLong
    | _ => .described (toString e)
  | e => .described (toString e)

/-- The result of work on the file at a path, or why there is none. -/
def attempt (path : Path) (work : IO α) : IO (Except FileFailure α) := do
  if path.hasZero then return .error .zeroInName
  try
    return .ok (← work)
  catch e =>
    return .error (.ofSystem e)

/-- Run a program on the files of the system. -/
def Program.perform (tell : Notice → IO Unit) : Program α → IO α
  | .done value => return value
  | .read path next => do
    let answer ← attempt path (IO.FS.readBinFile path.text)
    let text := answer.bind fun bytes =>
      match String.fromUTF8? bytes with
      | some text => .ok text
      | none => .error .notText
    (next text).perform tell
  | .find path next => do
    let answer ← attempt path (discard (IO.FS.Handle.mk path.text .read))
    (next answer.toBool).perform tell
  | .ensureDir path next => do
    let answer ← attempt path (IO.FS.createDirAll path.text)
    (next answer).perform tell
  | .write path text next => do
    let answer ← attempt path (IO.FS.writeFile path.text text)
    (next answer).perform tell
  | .tell notice next => do
    tell notice
    next.perform tell

/-- A record as a line of the log. -/
def Log.Record.line (r : Log.Record) (json : Bool) : String :=
  if json then
    (Json.object [("level", .string r.level.name), ("fields", r.fields),
      ("target", .string r.target)]).compact
  else
    String.intercalate " " ([r.level.name, r.message]
      ++ r.details.map fun (name, value) => name ++ "=" ++ value.compact)

/-- How the program is called. -/
def usageText : String :=
  "Usage: chaingen [-v] [--json-logs] [--config <file>] <command>\n\n"
    ++ "Commands:\n"
    ++ "  codegen [manifest] [-o <dir>] [--source-dir <dir>] [--skip-validation]\n"
    ++ "          [--skip-network-validation]\n"
    ++ "  validate [manifest] [--skip-network-validation] [--json]\n"
    ++ "  resolve <kind> [--json]\n"
    ++ "  protocols"

/-- Carry out a command, and write what comes of it. -/
def Invocation.main (i : Invocation) : IO UInt32 := do
  let notices ← IO.mkRef #[]
  let dir : Path := ⟨(← IO.currentDir).toString⟩
  let (result, log?) ← (i.perform dir).perform fun notice => notices.modify (·.push notice)
  if let some log := log? then
    for record in log.records (← notices.get).toList do
      IO.eprintln (record.line log.json)
  IO.print result.stdout
  if let some failure := result.failure? then
    IO.eprint failure.text
  return result.exitCode.toUInt32

end Subgraph

open Subgraph

def main (arguments : List String) : IO UInt32 := do
  match Invocation.parse arguments with
  | .ok invocation => invocation.main
  | .error .version =>
    IO.println Display.versionLine
    return 0
  | .error .help =>
    IO.println usageText
    return 0
  | .error .usage =>
    IO.eprintln usageText
    return 2
