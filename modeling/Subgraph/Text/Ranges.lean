/-!
# Text — ranges of characters

A class of characters is given by a list of inclusive ranges of code points.
-/

namespace Subgraph.Text

/-- The code point of `c` lies in one of the ranges. -/
def inRanges (ranges : List (Nat × Nat)) (c : Char) : Bool :=
  ranges.any fun r => r.1 ≤ c.toNat && c.toNat ≤ r.2

/-- A character of one of the ranges is in the class. -/
theorem inRanges_of_mem {ranges : List (Nat × Nat)} {c : Char} {a b : Nat}
    (h : (a, b) ∈ ranges) (ha : a ≤ c.toNat) (hb : c.toNat ≤ b) : inRanges ranges c :=
  List.any_eq_true.mpr ⟨(a, b), h, by simp [ha, hb]⟩

end Subgraph.Text
