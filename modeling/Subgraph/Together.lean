import Subgraph.Program

/-!
# Together — programs that are awaited together

Several programs may be under way at once.  They go on in rounds, in their order: each makes requests
until it has to wait for an answer, and then it is the next one's turn.  What comes of them is the
list of their values, in their order, or the first error that is met; the others are then left where
they stand.

How soon answers are there is up to the system.  A run is given a `Pace`, so what is proved for every
pace holds however long the system takes.  An output that only maps paths to contents, in memory,
answers at once; its pace is `[]`, and then each program comes to its end before the next one begins.

* `Program.proceed`: a program goes on until it has to wait.
* `Action.round`, `Action.together`: one round, and all of them.
-/

namespace Subgraph

/-- How soon answers are there for programs under way together, round by round: for each program, in
order, how many requests it makes before it has to wait, or zero if it is waiting still.  After the
last round no program has to wait, so with no rounds none ever has to. -/
abbrev Pace := List (List Nat)

variable {α : Type}

/-- A program goes on until it has made `n` requests, or has come to its end: what is left of it, or
the error with which it has ended. -/
def Program.proceed : Nat → Program (Outcome α) → Program (Outcome (Program (Outcome α)))
  | _, .done (.ok value) => .done (.ok (.done (.ok value)))
  | _, .done (.error e) => .done (.error e)
  | 0, p => .done (.ok p)
  | n + 1, .read path next => .read path fun answer => (next answer).proceed n
  | n + 1, .find path next => .find path fun answer => (next answer).proceed n
  | n + 1, .ensureDir path next => .ensureDir path fun answer => (next answer).proceed n
  | n + 1, .write path text next => .write path text fun answer => (next answer).proceed n
  | n + 1, .tell notice next => .tell notice (next.proceed n)

namespace Action

/-- Each of some programs goes on in turn; what is left of them. -/
def round : List Nat → List (Program (Outcome α)) → Action (List (Program (Outcome α)))
  | n :: ns, p :: ps => do
    let p' ← ExceptT.mk (p.proceed n)
    return p' :: (← round ns ps)
  | _, ps => return ps

/-- The values of some programs that are awaited together, in their order. -/
def together : Pace → List (Program (Outcome α)) → Action (List α)
  | [], ps => ps.mapM ExceptT.mk
  | ns :: pace, ps => do together pace (← round ns ps)

end Action

end Subgraph
