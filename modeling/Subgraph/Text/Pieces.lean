/-!
# Text — pieces between separators

`pieces` cuts a text at each separator; the pieces may be empty, and there is always one.
-/

namespace Subgraph.Text

/-- The pieces of a text between its separators. -/
def pieces (separator : Char) : List Char → List (List Char)
  | [] => [[]]
  | c :: cs =>
    if c = separator then [] :: pieces separator cs
    else match pieces separator cs with
      | piece :: others => (c :: piece) :: others
      | [] => [[c]]

theorem pieces_ne_nil (separator : Char) (text : List Char) : pieces separator text ≠ [] := by
  cases text with
  | nil => simp [pieces]
  | cons c cs => grind [pieces]

/-- A text without separators is one piece. -/
theorem pieces_of_notMem {separator : Char} {text : List Char} (h : separator ∉ text) :
    pieces separator text = [text] := by
  induction text with
  | nil => rfl
  | cons c cs ih => grind [pieces]

/-- The pieces are those of the library's own function. -/
theorem pieces_eq_splitOn (separator : Char) (text : List Char) :
    pieces separator text = text.splitOn separator := by
  induction text with
  | nil => rfl
  | cons c cs ih =>
      rw [pieces, List.splitOn_cons_eq_if_modifyHead, ih]
      by_cases hc : c = separator
      · rw [if_pos hc, if_pos (beq_iff_eq.mpr hc)]
      · rw [if_neg hc, if_neg (mt beq_iff_eq.mp hc)]
        rcases hp : cs.splitOn separator with _ | ⟨piece, others⟩
        · exact absurd hp (List.splitOn_ne_nil separator cs)
        · rfl

/-- A separator ends a piece. -/
theorem pieces_append (separator : Char) (xs ys : List Char) :
    pieces separator (xs ++ separator :: ys) = pieces separator xs ++ pieces separator ys := by
  simp only [pieces_eq_splitOn, List.splitOn_append_cons_self]

theorem notMem_of_mem_pieces {separator : Char} {text piece : List Char}
    (h : piece ∈ pieces separator text) : separator ∉ piece := by
  induction text generalizing piece with
  | nil => grind [pieces]
  | cons c cs ih => grind [pieces]

end Subgraph.Text
