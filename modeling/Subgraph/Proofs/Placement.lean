import Subgraph.Proofs.Layout

/-!
# Placement — the lines of a laid out source

A source that can be laid out is walked line by line to its end.  `Places` is that walk with all its
steps, and `format_eq_ok_iff` says that the layout is what the walk places, rendered.

* `IsSound`: a placed line has a text of its own, without blanks at its ends.
* `Placed.lines`: a placed line as lines of the result, with the blank line before it.
* `filter_resultLines`: the lines of the result that are not blank.
* `lines_render`, `pieces_render`: the lines of the result are those of the placed lines.
-/

namespace Subgraph.Layout

open Text

/-! ### The walk -/

/-- The walk over some lines that ends with all brackets matched, and the lines that it places. -/
inductive Places : State → List (List Char) → List Placed → Prop
  | done {s : State} (closed : s.stack = []) : Places s [] []
  | blank {s : State} {line : List Char} {rest : List (List Char)} {ps : List Placed}
      (empty : trim line = [])
      (others : Places { s with passed := s.passed + 1, gap := s.started } rest ps) :
      Places s (line :: rest) ps
  /-- The closing brackets that a line leads with take their entries off the stack before it is
  placed. -/
  | line {s : State} {line text : List Char} {rest : List (List Char)} {ps : List Placed}
      {stack : List Nat} (content : trim line = text) (any : text ≠ [])
      (all : matchBrackets s.passed (brackets text) s.stack = some stack)
      (others : Places ⟨s.passed + 1, stack, true, false⟩ rest ps) :
      Places s (line :: rest)
        (⟨s.gap, levels (s.stack.drop (leadingClosers text)), text⟩ :: ps)

variable {s : State} {ps : List Placed}

/-- **The walk is that of the layout.** -/
theorem place_eq_ok_iff {lines : List (List Char)} :
    place s lines = .ok ps ↔ Places s lines ps := by
  constructor
  · intro h
    induction lines generalizing s ps with
    | nil =>
        rw [place] at h
        split at h
        · next closed =>
            cases h
            exact .done closed
        · cases h
    | cons line rest ih =>
        rw [place] at h
        rcases ht : trim line with _ | ⟨c, cs⟩
        · rw [ht] at h
          exact .blank ht (ih h)
        · rw [ht] at h
          dsimp only at h
          rcases placeLine_cases s (c :: cs) with ⟨failed, -⟩ | ⟨stack, all, placed⟩
          · rw [failed] at h
            cases h
          · rw [placed] at h
            rcases hr : place ⟨s.passed + 1, stack, true, false⟩ rest with e | others
            · simp only [bind, Except.bind, hr] at h
              cases h
            · simp only [bind, Except.bind, hr] at h
              cases h
              exact .line ht (List.cons_ne_nil _ _) all (ih hr)
  · intro h
    induction h with
    | done closed => rw [place, if_pos closed]
    | blank empty _ ih => rw [place, empty, ih]
    | @line s line text rest ps stack content any all _ ih =>
        obtain ⟨c, cs, rfl⟩ := List.exists_cons_of_ne_nil any
        rw [place, content]
        dsimp only
        rw [placeLine_eq_ok all]
        simp only [bind, Except.bind, ih]
        rfl

/-- **A laid out source is what the walk over its lines places.** -/
theorem format_eq_ok_iff {source text : String} : format source = .ok text ↔
    ∃ ps, Places {} (lines source.toList) ps ∧ text.toList = ps.flatMap Placed.render := by
  simp only [← place_eq_ok_iff, format, formatChars, bind, Except.bind, pure, Except.pure]
  rcases place {} (lines source.toList) with e | ps
  · simp
  · simp [eq_comm, ← String.toList_inj]

/-! ### What is placed -/

namespace Placed

/-- A placed line has a text, which is on one line and has no blanks at its ends. -/
structure IsSound (p : Placed) : Prop where
  any : p.text ≠ []
  trimmed : IsTrimmed p.text
  newline : '\n' ∉ p.text

/-- The line itself, without the blank one before it. -/
def indented (p : Placed) : List Char := List.replicate (2 * p.level) ' ' ++ p.text

/-- A placed line as lines of the result: perhaps a blank one, and its own. -/
def lines (p : Placed) : List (List Char) :=
  (if p.gap then [[]] else []) ++ [List.replicate (2 * p.level) ' ' ++ p.text]

theorem render_eq (p : Placed) : p.render = p.lines.flatMap (· ++ ['\n']) := by
  unfold render lines
  split <;> simp

variable {p : Placed}

theorem isBlank_of_mem_indentation {n : Nat} : ∀ c ∈ List.replicate n ' ', isBlank c = true := by
  intro c hc
  rw [List.eq_of_mem_replicate hc]
  decide

/-- A placed line is indented, and nothing else. -/
theorem IsSound.trim_line (h : p.IsSound) :
    trim (List.replicate (2 * p.level) ' ' ++ p.text) = p.text := by
  rw [trim_append_of_blank isBlank_of_mem_indentation, trim_of_isTrimmed h.trimmed]

/-- Of the lines, its own is the one that is not blank. -/
theorem IsSound.filter_lines (h : p.IsSound) :
    p.lines.filter (fun line => trim line ≠ []) = [p.indented] := by
  have any : trim (List.replicate (2 * p.level) ' ' ++ p.text) ≠ [] := by
    rw [h.trim_line]
    exact h.any
  unfold lines indented
  split <;> simp [any, show trim [] = [] from rfl]

/-- No line of the result ends with a blank. -/
theorem IsSound.last (h : p.IsSound) :
    ∀ line ∈ p.lines, ∀ c, line.getLast? = some c → isBlank c = false := by
  refine List.forall_mem_append.mpr ⟨?_, List.forall_mem_singleton.mpr fun c hc => ?_⟩
  · split
    · exact List.forall_mem_singleton.mpr nofun
    · exact nofun
  · obtain ⟨d, hd⟩ := Option.ne_none_iff_exists'.mp (mt List.getLast?_eq_none_iff.mp h.any)
    rw [List.getLast?_append, hd, Option.some_or] at hc
    cases hc
    exact h.trimmed.last c hd

theorem IsSound.notMem_lines (h : p.IsSound) : ∀ line ∈ p.lines, '\n' ∉ line := by
  refine List.forall_mem_append.mpr ⟨?_, List.forall_mem_singleton.mpr fun hm => ?_⟩
  · split
    · exact List.forall_mem_singleton.mpr List.not_mem_nil
    · exact nofun
  · rcases List.mem_append.mp hm with hm | hm
    · exact absurd (List.eq_of_mem_replicate hm) (by decide)
    · exact h.newline hm

end Placed

theorem Places.isSound {lines : List (List Char)} (h : Places s lines ps)
    (newline : ∀ line ∈ lines, '\n' ∉ line) : ∀ p ∈ ps, p.IsSound := by
  induction h with
  | done => exact nofun
  | blank _ _ ih => exact ih (List.forall_mem_cons.mp newline).2
  | line content any _ _ ih =>
      obtain ⟨first, others⟩ := List.forall_mem_cons.mp newline
      subst content
      exact List.forall_mem_cons.mpr
        ⟨⟨any, isTrimmed_trim _, fun hm => first (mem_of_mem_trim hm)⟩, ih others⟩

/-! ### The lines of the result -/

/-- All placed lines as lines of the result. -/
def resultLines (ps : List Placed) : List (List Char) := ps.flatMap Placed.lines

theorem flatMap_render (ps : List Placed) :
    ps.flatMap Placed.render = (resultLines ps).flatMap (· ++ ['\n']) := by
  rw [resultLines, List.flatMap_assoc]
  exact congrArg (List.flatMap · ps) (funext Placed.render_eq)

section

variable (sound : ∀ p ∈ ps, p.IsSound)
include sound

/-- **The lines of the result that are not blank** are the placed ones, indented. -/
theorem filter_resultLines :
    (resultLines ps).filter (fun line => trim line ≠ []) = ps.map Placed.indented := by
  induction ps with
  | nil => rfl
  | cons p ps ih =>
      obtain ⟨first, others⟩ := List.forall_mem_cons.mp sound
      rw [resultLines, List.flatMap_cons, List.filter_append, first.filter_lines, List.map_cons]
      exact congrArg _ (ih others)

theorem notMem_resultLines : ∀ line ∈ resultLines ps, '\n' ∉ line := by
  intro line hl
  obtain ⟨p, hp, hl⟩ := List.mem_flatMap.mp hl
  exact (sound p hp).notMem_lines line hl

/-- **No line of the result ends with a blank.** -/
theorem last_resultLines :
    ∀ line ∈ resultLines ps, ∀ c, line.getLast? = some c → isBlank c = false := by
  intro line hl
  obtain ⟨p, hp, hl⟩ := List.mem_flatMap.mp hl
  exact (sound p hp).last line hl

/-- **The lines of the result** are those of the placed lines. -/
theorem lines_render : Text.lines (ps.flatMap Placed.render) = resultLines ps := by
  rw [flatMap_render]
  refine lines_flatMap (notMem_resultLines sound) fun line hl => if_neg fun hr => ?_
  -- a return at the end would be a blank there
  exact absurd (last_resultLines sound line hl _ hr) (by decide)

theorem pieces_render : pieces '\n' (ps.flatMap Placed.render) = resultLines ps ++ [[]] := by
  rw [flatMap_render]
  have newline := notMem_resultLines sound
  generalize resultLines ps = ls at newline
  induction ls with
  | nil => rfl
  | cons l ls ih =>
      obtain ⟨first, others⟩ := List.forall_mem_cons.mp newline
      rw [List.flatMap_cons, List.append_assoc, List.singleton_append, pieces_append,
        pieces_of_notMem first, ih others]
      rfl

end

end Subgraph.Layout
