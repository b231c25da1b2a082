/-!
# Text — order by name

`sortByName` puts the members of a list in the order of their names, character by character; those
that share a name keep their order.
-/

namespace Subgraph.Text

variable {α : Type}

/-- A list in the order of names with one more member, behind those of the same name. -/
def insertByName (name : α → String) (x : α) : List α → List α
  | [] => [x]
  | y :: ys => if name x < name y then x :: y :: ys else y :: insertByName name x ys

/-- A list in the order of names. -/
def sortByName (name : α → String) (xs : List α) : List α :=
  xs.foldl (fun sorted x => insertByName name x sorted) []

theorem mem_insertByName {name : α → String} {x y : α} {ys : List α} :
    y ∈ insertByName name x ys ↔ y = x ∨ y ∈ ys := by
  induction ys with
  | nil => simp [insertByName]
  | cons z zs ih => grind [insertByName]

end Subgraph.Text
