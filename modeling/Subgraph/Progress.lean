/-!
# Progress — what a run tells of its stages

A stage begins, takes steps, and succeeds or fails; warnings may come between stages.
-/

namespace Subgraph

/-- One piece of progress. -/
inductive Progress where
  | begin (title : String)
  | step (subject detail : String)
  | warn (message : String)
  | succeed (title : String)
  | fail (title error : String)
  deriving DecidableEq, Repr

namespace Progress

/-- The details of the steps of one subject. -/
def steps (subject : String) (events : List Progress) : List String :=
  events.filterMap fun
    | .step s detail => if s = subject then some detail else none
    | _ => none

/-- The warnings. -/
def warnings (events : List Progress) : List String :=
  events.filterMap fun
    | .warn message => some message
    | _ => none

end Progress

end Subgraph
