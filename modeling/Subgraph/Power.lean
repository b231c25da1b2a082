/-!
# Power — powers of two and ten

The sizes of machine numbers are powers of two, and places of decimals are powers of ten.
-/

namespace Subgraph

/-- Two to the power of `n`. -/
def twoTo (n : Nat) : Nat := Nat.pow 2 n

/-- Ten to the power of `n`. -/
def tenTo (n : Nat) : Nat := Nat.pow 10 n

theorem twoTo_pos (n : Nat) : 0 < twoTo n := Nat.pow_pos (by decide)

theorem tenTo_pos (n : Nat) : 0 < tenTo n := Nat.pow_pos (by decide)

theorem tenTo_zero : tenTo 0 = 1 := rfl

theorem tenTo_succ (n : Nat) : tenTo (n + 1) = tenTo n * 10 := rfl

theorem tenTo_add (m n : Nat) : tenTo (m + n) = tenTo m * tenTo n := Nat.pow_add 10 m n

theorem tenTo_mono {m n : Nat} (h : m ≤ n) : tenTo m ≤ tenTo n := Nat.pow_le_pow_right (by decide) h

end Subgraph
