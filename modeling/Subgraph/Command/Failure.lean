import Subgraph.Error
import Subgraph.Text.Pieces

/-!
# Command — failures

What a command says when it fails: a message, and under it the causes, each behind the one before
it.  `Failure.text` lays them out.
-/

namespace Subgraph

/-- Why a command failed. -/
inductive Failure where
  /-- The configuration could not be read. -/
  | configuration (cause : Error)
  /-- The files for a manifest could not be made. -/
  | build (manifest : Path) (cause : Error)
  /-- A manifest could not be checked. -/
  | check (cause : Error)
  /-- A manifest has errors. -/
  | invalid (manifest : Path) (errors : Nat)
  /-- Neither a kind nor the name of a family. -/
  | noFamily (kind : String)
  deriving DecidableEq, Repr

namespace Failure

def message : Failure → String
  | .configuration _ => "load config"
  | .build manifest _ => s!"codegen failed for {manifest}"
  | .check cause => cause.message
  | .invalid manifest errors => s!"{manifest} has {errors} error(s)"
  | .noFamily kind => s!"'{kind}' does not match any protocol family"

/-- The causes, nearest first. -/
def causes : Failure → List String
  | .configuration cause | .build _ cause => cause.message :: cause.causes
  | .check cause => cause.causes
  | .invalid _ _ | .noFamily _ => []

/-- A text behind a mark; its further lines are indented. -/
def hanging (mark : String) (indent : Nat) (text : String) : String :=
  let lines := (Text.pieces '\n' text.toList).map String.ofList
  let margin := "\n" ++ String.ofList (List.replicate indent ' ')
  mark ++ String.intercalate margin lines

/-- The number of a cause, set to the right of five columns. -/
def numberMark (n : Nat) : String :=
  String.ofList (List.replicate (5 - n.repr.length) ' ') ++ n.repr ++ ": "

/-- The lines of the causes; a single one has no number. -/
def causeLines : List String → List String
  | [cause] => [hanging "    " 4 cause]
  | causes => causes.zipIdx.map fun (cause, n) => hanging (numberMark n) 7 cause

/-- The whole text of a failure. -/
def text (f : Failure) : String :=
  let causes := match causeLines f.causes with
    | [] => []
    | lines => "" :: "Caused by:" :: lines
  String.join ((("Error: " ++ f.message) :: causes).map (· ++ "\n"))

end Failure

end Subgraph
