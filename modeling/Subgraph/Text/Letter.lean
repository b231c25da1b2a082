import Subgraph.Text.Ranges
import Subgraph.Text.LetterTable

/-!
# Text — letters and numerals of any script

`isAlphanumeric` is the class of the characters that words and numbers are written with.  It holds
every character of the core class `Char.isAlphanum` (`isAlphanumeric_of_isAlphanum`).
-/

namespace Subgraph.Text

/-- `c` is a letter or a numeral. -/
def isAlphanumeric (c : Char) : Bool := inRanges letterRanges c

theorem isAlphanumeric_of_isAlphanum {c : Char} (h : c.isAlphanum) : isAlphanumeric c := by
  change (decide (0x41 ≤ c.val ∧ c.val ≤ 0x5A) ||
    (decide (0x61 ≤ c.val) && decide (c.val ≤ 0x7A)) ||
    (decide (0x30 ≤ c.val) && decide (c.val ≤ 0x39))) = true at h
  simp only [Bool.or_eq_true, Bool.and_eq_true, decide_eq_true_eq, UInt32.le_iff_toNat_le] at h
  rcases h with (h | h) | h
  · exact inRanges_of_mem (.tail _ (.head _)) h.1 h.2
  · exact inRanges_of_mem (.tail _ (.tail _ (.head _))) h.1 h.2
  · exact inRanges_of_mem (.head _) h.1 h.2

end Subgraph.Text
