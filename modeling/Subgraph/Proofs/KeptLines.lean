import Subgraph.Proofs.Placement

/-!
# KeptLines — the layout keeps the lines of a source

The layout changes nothing but the blanks at the ends of lines and the number of blank lines.

* `contents`: the lines that are not blank, trimmed.
* `gaps`: how many blank lines stand between two of them.
* `Places.map_text`, `Places.map_gap`: what the walk over some lines places, seen from both sides.
* `format_keeps`: a laid out source has the same contents, and where there were blank lines between
  two of them there is one.
-/

namespace Subgraph.Layout

open Text

/-! ### Lines that are not blank -/

/-- The lines that are not blank, trimmed. -/
def contents (lines : List (List Char)) : List (List Char) := (lines.map trim).filter (· ≠ [])

/-- How many blank lines stand before each line that is not blank, when so many have been passed. -/
def gapsFrom (passed : Nat) : List (List Char) → List Nat
  | [] => []
  | line :: rest =>
    if trim line = [] then gapsFrom (passed + 1) rest else passed :: gapsFrom 0 rest

/-- How many blank lines stand between two lines that are not blank and come one after the other. -/
def gaps (lines : List (List Char)) : List Nat := (gapsFrom 0 lines).tail

theorem trim_dropReturn (line : List Char) : trim (dropReturn line) = trim line := by
  unfold dropReturn
  split
  · next h =>
    obtain ⟨text, rfl⟩ := List.getLast?_eq_some_iff.mp h
    rw [List.dropLast_concat, trim_append_blank]
    exact List.forall_mem_singleton.mpr (by decide)
  · rfl

theorem contents_append (xs ys : List (List Char)) :
    contents (xs ++ ys) = contents xs ++ contents ys := by
  unfold contents
  rw [List.map_append, List.filter_append]

theorem contents_blank {line : List Char} (h : trim line = []) (rest : List (List Char)) :
    contents (line :: rest) = contents rest := by
  simp [contents, h]

theorem contents_text {line : List Char} (h : trim line ≠ []) (rest : List (List Char)) :
    contents (line :: rest) = trim line :: contents rest := by
  simp [contents, h]

theorem contents_eq_flatMap (ls : List (List Char)) :
    contents ls = ls.flatMap fun line => contents [line] := by
  induction ls with
  | nil => rfl
  | cons line rest ih =>
      rw [List.flatMap_cons, ← ih, ← contents_append]
      rfl

/-- The contents of a text do not depend on returns at the ends of its lines. -/
theorem contents_lines (text : List Char) :
    contents (lines text) = contents (pieces '\n' text) := by
  have ends (line : List Char) : contents [dropReturn line] = contents [line] := by
    simp only [contents, List.map_cons, List.map_nil, trim_dropReturn]
  rw [contents_eq_flatMap, contents_eq_flatMap (pieces '\n' text)]
  exact flatMap_linesFrom (rfl : contents [[]] = []) ends List.not_mem_nil text

/-- The contents of texts that are put together line by line. -/
theorem contents_intercalate (texts : List (List Char)) :
    contents (pieces '\n' (List.intercalate ['\n'] texts)) =
      texts.flatMap fun text => contents (pieces '\n' text) := by
  rw [contents_eq_flatMap, flatMap_pieces_intercalate (rfl : contents [[]] = [])]
  simp only [← contents_eq_flatMap]

/-! ### What is placed -/

variable {s : State} {ps : List Placed} {ls : List (List Char)}

theorem Places.map_text (h : Places s ls ps) : ps.map Placed.text = contents ls := by
  induction h with
  | done => rfl
  | blank empty _ ih => rw [ih, contents_blank empty]
  | line content any _ _ ih =>
      subst content
      rw [contents_text any, List.map_cons, ih]

/-- Once a line has been placed, there is a gap wherever blank lines have been passed. -/
theorem Places.map_gap_of_started (h : Places s ls ps) (started : s.started = true) (passed : Nat)
    (gap : s.gap = decide (0 < passed)) :
    ps.map Placed.gap = (gapsFrom passed ls).map fun n => decide (0 < n) := by
  induction h generalizing passed with
  | done => rfl
  | blank empty _ ih =>
      rw [gapsFrom, if_pos empty]
      exact ih started _ (by simpa using started)
  | line content any _ _ ih =>
      rw [gapsFrom, if_neg (content ▸ any), List.map_cons, List.map_cons, ih rfl 0 rfl, gap]

/-- Before a line has been placed, blank lines make no gap. -/
theorem Places.map_gap (h : Places s ls ps) (fresh : s.started = false) (gap : s.gap = false)
    (passed : Nat) : (∀ p ∈ ps.head?, p.gap = false) ∧
      (ps.map Placed.gap).tail = ((gapsFrom passed ls).map fun n => decide (0 < n)).tail := by
  induction h generalizing passed with
  | done => exact ⟨nofun, rfl⟩
  | blank empty _ ih =>
      rw [gapsFrom, if_pos empty]
      exact ih fresh fresh _
  | line content any _ others ih =>
      rw [gapsFrom, if_neg (content ▸ any)]
      refine ⟨?_, others.map_gap_of_started rfl 0 rfl⟩
      rintro p ⟨⟩
      exact gap

/-! ### The lines of the result -/

section

variable (sound : ∀ p ∈ ps, p.IsSound)
include sound

theorem contents_resultLines : contents (resultLines ps) = ps.map Placed.text := by
  rw [contents, List.filter_map]
  refine (congrArg (List.map trim) (filter_resultLines sound)).trans ?_
  rw [List.map_map]
  exact List.map_congr_left fun p hp => (sound p hp).trim_line

theorem gapsFrom_resultLines :
    gapsFrom 0 (resultLines ps) = ps.map fun p => p.gap.toNat := by
  induction ps with
  | nil => rfl
  | cons p ps ih =>
      obtain ⟨first, others⟩ := List.forall_mem_cons.mp sound
      have any : trim (List.replicate (2 * p.level) ' ' ++ p.text) ≠ [] := by
        rw [first.trim_line]
        exact first.any
      rw [List.map_cons, ← ih others, resultLines, List.flatMap_cons, Placed.lines]
      cases p.gap with
      | false => exact if_neg any
      | true =>
          refine (if_pos (rfl : trim [] = [])).trans ?_
          exact if_neg any

/-- **The first line of the result is not blank** if there was no gap before it. -/
theorem first_resultLines (gap : ∀ p ∈ ps.head?, p.gap = false) (line : List Char)
    (h : (resultLines ps).head? = some line) : trim line ≠ [] := by
  cases ps with
  | nil => cases h
  | cons p ps =>
      have first := sound p List.mem_cons_self
      rw [resultLines, List.flatMap_cons, Placed.lines, gap p rfl] at h
      cases h
      rw [first.trim_line]
      exact first.any

/-- The last line of the result is that of the last placed line. -/
theorem last_resultLines_cases : ps = [] ∨
    ∃ before indentation text, resultLines ps = before ++ [indentation ++ text] ∧
      trim (indentation ++ text) = text ∧ text ≠ [] ∧ IsTrimmed text := by
  rcases List.eq_nil_or_concat ps with rfl | ⟨others, p, rfl⟩
  · exact .inl rfl
  · have last := sound p (by simp)
    refine .inr ⟨resultLines others ++ (if p.gap then [[]] else []), _, p.text, ?_, last.trim_line,
      last.any, last.trimmed⟩
    unfold resultLines
    rw [List.concat_eq_append, List.flatMap_append, List.flatMap_singleton, List.append_assoc]
    rfl

end

/-! ### Sources -/

/-- **A laid out source has the contents that it had before.** -/
theorem contents_format {source text : String} (h : format source = .ok text) :
    contents (lines text.toList) = contents (lines source.toList) := by
  obtain ⟨ps, walk, text_eq⟩ := format_eq_ok_iff.mp h
  have sound := walk.isSound newline_notMem_of_mem_lines
  rw [text_eq, lines_render sound, contents_resultLines sound, walk.map_text]

/-- What a laid out text keeps of its source, and how its lines and its end look. -/
structure Keeps (source text : List Char) : Prop where
  contents_eq : contents (lines text) = contents (lines source)
  /-- Where there were blank lines between two others, there is one, and elsewhere none. -/
  gaps_eq : gaps (lines text) = (gaps (lines source)).map (min 1)
  first : ∀ line, (lines text).head? = some line → trim line ≠ []
  last : ∀ line, (lines text).getLast? = some line → trim line ≠ []
  ends : ∀ line ∈ pieces '\n' text, ∀ c, line.getLast? = some c → isBlank c = false
  empty : contents (lines source) = [] → text = []
  newline : contents (lines source) ≠ [] →
    ∃ body c, c ≠ '\n' ∧ text = body ++ [c, '\n']

/-- **The layout keeps the lines of a source.**

Of the lines that are not blank, none is added or lost, each keeps its place among the others and
all of its text but the blanks at its ends.  Runs of blank lines between them become one blank line,
and those at either end of the source are dropped. -/
theorem format_keeps {source text : String} (h : format source = .ok text) :
    Keeps source.toList text.toList := by
  obtain ⟨ps, walk, text_eq⟩ := format_eq_ok_iff.mp h
  have sound := walk.isSound newline_notMem_of_mem_lines
  obtain ⟨gap, others⟩ := walk.map_gap rfl rfl 0
  have kept := contents_format h
  rw [text_eq] at kept ⊢
  refine ⟨kept, ?_, ?_, ?_, ?_, fun none => ?_, fun some => ?_⟩
  · have one (n : Nat) : (decide (0 < n)).toNat = min 1 n := by
      cases n with
      | zero => rfl
      | succ n => simp
    have placed : (ps.map fun p => p.gap.toNat) = (ps.map Placed.gap).map Bool.toNat := by simp
    rw [lines_render sound, gaps, gapsFrom_resultLines sound, placed, ← List.map_tail,
      others, List.map_tail, List.map_map, gaps, List.map_tail]
    simp only [Function.comp_def, one]
  · rw [lines_render sound]
    exact first_resultLines sound gap
  · intro line hl
    rw [lines_render sound] at hl
    rcases last_resultLines_cases sound with rfl | ⟨before, indentation, text, last, own, any, -⟩
    · cases hl
    · rw [last, List.getLast?_concat] at hl
      cases hl
      rwa [own]
  · rw [pieces_render sound]
    exact List.forall_mem_append.mpr ⟨last_resultLines sound, List.forall_mem_singleton.mpr nofun⟩
  · rw [← walk.map_text, List.map_eq_nil_iff] at none
    rw [none]
    rfl
  · rcases last_resultLines_cases sound with rfl |
      ⟨before, indentation, text, last, -, any, trimmed⟩
    · exact absurd walk.map_text.symm some
    · obtain ⟨body, c, rfl⟩ := (List.eq_nil_or_concat text).resolve_left any
      rw [List.concat_eq_append] at last trimmed
      refine ⟨before.flatMap (· ++ ['\n']) ++ indentation ++ body, c, ?_, ?_⟩
      · rintro rfl
        exact absurd (trimmed.last '\n' List.getLast?_concat) (by decide)
      · rw [flatMap_render, last]
        simp

/-- A source with blank lines at its ends, a run of them inside, and blanks at the ends of lines. -/
theorem format_keeps_list :
    format "\n\tf([ \n1, // (\r\n\n \n2])\n\n" = .ok "f([\n  1, // (\n\n  2])\n" ∧
      Keeps "\n\tf([ \n1, // (\r\n\n \n2])\n\n".toList "f([\n  1, // (\n\n  2])\n".toList :=
  ⟨rfl, format_keeps rfl⟩

end Subgraph.Layout
