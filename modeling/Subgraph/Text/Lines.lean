/-!
# Text — lines

A text as its lines (`lines`): a line ends at a line feed, which is dropped together with one
carriage return before it; what follows the last line feed is a line unless it is empty.
-/

namespace Subgraph.Text

/-- A line without the carriage return at its end, if it has one. -/
def dropReturn (line : List Char) : List Char :=
  if line.getLast? = some '\r' then line.dropLast else line

/-- The lines of a text whose first line begins with `line`, given in reverse. -/
def linesFrom (line : List Char) : List Char → List (List Char)
  | [] => if line = [] then [] else [line.reverse]
  | '\n' :: rest => dropReturn line.reverse :: linesFrom [] rest
  | c :: rest => linesFrom (c :: line) rest

/-- The lines of a text. -/
def lines (text : List Char) : List (List Char) := linesFrom [] text

@[simp] theorem lines_nil : lines [] = [] := rfl

/-- The first line of a text ends at its first line feed. -/
theorem linesFrom_append_newline (line text rest : List Char) (h : '\n' ∉ text) :
    linesFrom line (text ++ '\n' :: rest)
      = dropReturn (line.reverse ++ text) :: linesFrom [] rest := by
  induction text generalizing line with
  | nil => simp [linesFrom]
  | cons c cs ih =>
      simp only [List.mem_cons, not_or] at h
      rw [List.cons_append, linesFrom.eq_3 _ _ _ (fun e => h.1 e.symm), ih _ h.2]
      simp

/-- A text without line feeds is one line, unless it is empty. -/
theorem linesFrom_of_notMem {line text : List Char} (h : '\n' ∉ text)
    (any : line ≠ [] ∨ text ≠ []) : linesFrom line text = [line.reverse ++ text] := by
  induction text generalizing line with
  | nil => simp [linesFrom, any.resolve_right (not_not_intro rfl)]
  | cons c text ih =>
      simp only [List.mem_cons, not_or] at h
      rw [linesFrom.eq_3 _ _ _ fun e => h.1 e.symm, ih h.2 (.inl (List.cons_ne_nil _ _))]
      simp

theorem mem_of_mem_dropReturn {line : List Char} {c : Char} (h : c ∈ dropReturn line) :
    c ∈ line := by
  unfold dropReturn at h
  split at h
  · exact (List.dropLast_subset line) h
  · exact h

theorem newline_notMem_of_mem_linesFrom {line text : List Char} (h : '\n' ∉ line) :
    ∀ l ∈ linesFrom line text, '\n' ∉ l := by
  fun_induction linesFrom line text with
  | case1 => exact nofun
  | case2 line any => exact List.forall_mem_singleton.mpr (mt List.mem_reverse.mp h)
  | case3 line rest ih =>
      refine List.forall_mem_cons.mpr ⟨fun hm => ?_, ih List.not_mem_nil⟩
      exact h (List.mem_reverse.mp (mem_of_mem_dropReturn hm))
  | case4 line c rest hc ih =>
      exact ih fun hm => (List.mem_cons.mp hm).elim (fun he => hc he.symm) h

/-- No line has a line feed. -/
theorem newline_notMem_of_mem_lines {text : List Char} : ∀ l ∈ lines text, '\n' ∉ l :=
  newline_notMem_of_mem_linesFrom List.not_mem_nil

/-- A text that is put together of lines has these lines, unless one ends with a return. -/
theorem lines_flatMap {ls : List (List Char)} (newline : ∀ l ∈ ls, '\n' ∉ l)
    (ends : ∀ l ∈ ls, dropReturn l = l) : lines (ls.flatMap (· ++ ['\n'])) = ls := by
  induction ls with
  | nil => rfl
  | cons l ls ih =>
      obtain ⟨newline₁, newline₂⟩ := List.forall_mem_cons.mp newline
      obtain ⟨ends₁, ends₂⟩ := List.forall_mem_cons.mp ends
      have first := linesFrom_append_newline [] l (ls.flatMap (· ++ ['\n'])) newline₁
      rw [List.reverse_nil, List.nil_append, ends₁] at first
      rw [List.flatMap_cons, List.append_assoc, List.singleton_append]
      exact first.trans (congrArg (l :: ·) (ih newline₂ ends₂))

end Subgraph.Text
