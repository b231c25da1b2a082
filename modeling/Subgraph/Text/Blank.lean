import Subgraph.Text.Ranges

/-!
# Text — blank characters

The characters with the Unicode property `White_Space` (`isBlank`), and trimming by them
(`trim`).  The list holds every character that the core class `Char.isWhitespace` holds
(`isBlank_of_isWhitespace`), and nineteen more.  A trimmed text has no blank character at its ends
(`isTrimmed_trim`), and trimming leaves such a text as it is (`trim_of_isTrimmed`).
-/

namespace Subgraph.Text

/-- The code points with the property `White_Space`, as inclusive ranges. -/
def blankRanges : List (Nat × Nat) :=
  [(0x9, 0xD), (0x20, 0x20), (0x85, 0x85), (0xA0, 0xA0), (0x1680, 0x1680), (0x2000, 0x200A),
   (0x2028, 0x2029), (0x202F, 0x202F), (0x205F, 0x205F), (0x3000, 0x3000)]

/-- `c` is white space. -/
def isBlank (c : Char) : Bool := inRanges blankRanges c

/-- A line without the blank characters at its start. -/
def trimStart (cs : List Char) : List Char := cs.dropWhile isBlank

/-- A line without the blank characters at its two ends. -/
def trim (cs : List Char) : List Char := (trimStart (trimStart cs).reverse).reverse

theorem isBlank_of_isWhitespace {c : Char} (h : c.isWhitespace) : isBlank c := by
  simp only [Char.isWhitespace, Bool.or_eq_true, decide_eq_true_eq] at h
  rcases h with ((rfl | rfl) | rfl) | rfl <;> decide

/-- What trimming leaves does not start with a blank character. -/
theorem head?_trimStart {cs : List Char} {c : Char} (h : (trimStart cs).head? = some c) :
    isBlank c = false := by
  have := List.head?_dropWhile_not isBlank cs
  rw [show cs.dropWhile isBlank = trimStart cs from rfl, h] at this
  simpa using this

theorem trimStart_of_head? {cs : List Char} (h : ∀ c, cs.head? = some c → isBlank c = false) :
    trimStart cs = cs := by
  cases cs with
  | nil => rfl
  | cons c cs => exact List.dropWhile_cons_of_neg (by rw [h c rfl]; exact Bool.false_ne_true)

/-- What trimming leaves stands at the start of the text without its first blank characters. -/
theorem trim_prefix_trimStart (cs : List Char) : trim cs <+: trimStart cs := by
  rw [← List.reverse_suffix]
  unfold trim
  rw [List.reverse_reverse]
  exact List.dropWhile_suffix isBlank

theorem mem_of_mem_trim {cs : List Char} {c : Char} (h : c ∈ trim cs) : c ∈ cs :=
  (List.dropWhile_suffix isBlank).subset ((trim_prefix_trimStart cs).subset h)

/-- There is no blank character at either end of the text. -/
structure IsTrimmed (cs : List Char) : Prop where
  first : ∀ c, cs.head? = some c → isBlank c = false
  last : ∀ c, cs.getLast? = some c → isBlank c = false

theorem isTrimmed_trim (cs : List Char) : IsTrimmed (trim cs) where
  first c h := by
    obtain ⟨rest, hr⟩ := trim_prefix_trimStart cs
    have first : (trimStart cs).head? = some c := by
      rw [← hr, List.head?_append, h, Option.some_or]
    exact head?_trimStart first
  last c h := by
    unfold trim at h
    rw [List.getLast?_reverse] at h
    exact head?_trimStart h

theorem trim_of_isTrimmed {cs : List Char} (h : IsTrimmed cs) : trim cs = cs := by
  unfold trim
  rw [trimStart_of_head? h.first, trimStart_of_head?, List.reverse_reverse]
  intro c hc
  rw [List.head?_reverse] at hc
  exact h.last c hc

/-- Blank characters before a text are trimmed away. -/
theorem trim_append_of_blank {ws : List Char} (h : ∀ c ∈ ws, isBlank c = true) (cs : List Char) :
    trim (ws ++ cs) = trim cs := by
  unfold trim trimStart
  rw [List.dropWhile_append_of_pos h]

/-- Blank characters behind a text are trimmed away. -/
theorem trim_append_blank {ws : List Char} (h : ∀ c ∈ ws, isBlank c = true) (cs : List Char) :
    trim (cs ++ ws) = trim cs := by
  unfold trim trimStart
  rw [List.dropWhile_append]
  split
  · next empty =>
      have none : ws.dropWhile isBlank = [] := by
        rw [← List.append_nil ws, List.dropWhile_append_of_pos h, List.dropWhile_nil]
      rw [List.isEmpty_iff.mp empty, none]
  · rw [List.reverse_append, List.dropWhile_append_of_pos fun c hc => h c (List.mem_reverse.mp hc)]

theorem filter_trimStart (cs : List Char) :
    (trimStart cs).filter (fun c => !isBlank c) = cs.filter fun c => !isBlank c := by
  induction cs with
  | nil => rfl
  | cons c cs ih =>
      rw [trimStart, List.dropWhile_cons]
      split
      · next blank => rw [List.filter_cons_of_neg (by simp [blank])]; exact ih
      · rfl

/-- Trimming keeps all characters that are not blank. -/
theorem filter_trim (cs : List Char) :
    (trim cs).filter (fun c => !isBlank c) = cs.filter fun c => !isBlank c := by
  rw [trim, List.filter_reverse, filter_trimStart, ← List.filter_reverse, List.reverse_reverse,
    filter_trimStart]

end Subgraph.Text
