import Subgraph.Json
import Subgraph.Protocol

/-!
# Protocol — families in JSON

A family is written in JSON as its name; an object whose only key is the name stands for it too.
-/

namespace Subgraph.Family

/-- The family that a JSON value names. -/
def ofJson? : Json → Option Family
  | .string name => ofName? name
  | .object [(name, .null)] => ofName? name
  | _ => none

def toJson (f : Family) : Json := .string f.name

/-- Reading what was written gives the family back. -/
@[simp] theorem ofJson?_toJson (f : Family) : ofJson? f.toJson = some f := ofName?_name f

end Subgraph.Family
