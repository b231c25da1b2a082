import Mathlib.Data.List.TakeWhile
import Subgraph.AbiReference

/-!
# Components — paths compared component by component

Two paths lead to one place when they start alike and have the same names between their
separators, where a component that is empty or `.` names nothing.  `Path.parts` lists the start and
the names of a path.

* `Path.Extends`: a path is another one with some more names at its end.
* `Path.Extends.join`: a plain name, joined to a path, is one more name at its end.
* `Path.Extends.parent?`: the parent of a path has all its names but the last.
-/

namespace Subgraph

open Text

namespace Path

/-! ### Names between separators -/

/-- A piece between separators names something. -/
def isNamed (piece : List Char) : Bool := !isVoid piece

/-- The pieces between separators that name something. -/
def namesIn (body : List Char) : List (List Char) :=
  (pieces '/' body).filter isNamed

/-- The names of a path. -/
def names (p : Path) : List String := (namesIn p.text.toList).map String.ofList

/-- The start of a path, if it has one, and its names. -/
def parts (p : Path) : List String :=
  if start p.text.toList = [] then p.names else String.ofList (start p.text.toList) :: p.names

theorem namesIn_append (xs ys : List Char) :
    namesIn (xs ++ '/' :: ys) = namesIn xs ++ namesIn ys := by
  unfold namesIn
  rw [pieces_append, List.filter_append]

theorem namesIn_cons_separator (ys : List Char) : namesIn ('/' :: ys) = namesIn ys :=
  namesIn_append [] ys

theorem namesIn_of_notMem {piece : List Char} (h : '/' ∉ piece) :
    namesIn piece = [piece].filter isNamed := by
  unfold namesIn
  rw [pieces_of_notMem h]

/-- The names in pieces that are put together again are those among the pieces. -/
theorem namesIn_intercalate {ps : List (List Char)} (h : ∀ piece ∈ ps, '/' ∉ piece) :
    namesIn (List.intercalate ['/'] ps) = ps.filter isNamed := by
  by_cases hps : ps = []
  · subst hps; rfl
  · unfold namesIn
    rw [pieces_eq_splitOn, List.splitOn_intercalate '/' h hps]

/-! ### The start of a path -/

/-- The start of a path is followed by a separator, unless it is one. -/
theorem start_cases (cs : List Char) :
    start cs = ['/'] ∧ (∃ body, cs = '/' :: body) ∨
      start cs = ['.'] ∧ (cs = ['.'] ∨ ∃ body, cs = '.' :: '/' :: body) ∨
      start cs = [] ∧ cs.head? ≠ some '/' ∧ cs ≠ ['.'] ∧ ∀ body, cs ≠ '.' :: '/' :: body := by
  unfold start
  split
  · next body => exact .inl ⟨rfl, body, rfl⟩
  · exact .inr (.inl ⟨rfl, .inl rfl⟩)
  · next body => exact .inr (.inl ⟨rfl, .inr ⟨body, rfl⟩⟩)
  · next h₁ h₂ h₃ =>
      refine .inr (.inr ⟨rfl, fun h => ?_, h₂, h₃⟩)
      obtain ⟨body, rfl⟩ := List.head?_eq_some_iff.mp h
      exact h₁ body rfl

theorem isAbsolute_iff (p : Path) : p.isAbsolute = true ↔ start p.text.toList = ['/'] := by
  unfold isAbsolute
  rw [beq_iff_eq]
  rcases start_cases p.text.toList with ⟨h, body, hb⟩ | ⟨h, hb | ⟨body, hb⟩⟩ | ⟨h, none, -⟩
  · rw [h, hb]
    exact iff_of_true rfl rfl
  · rw [h, hb]
    decide
  · rw [h, hb]
    simp
  · rw [h]
    simpa using none

/-- The start holds no name. -/
theorem namesIn_drop_start (cs : List Char) :
    namesIn (cs.drop (start cs).length) = namesIn cs := by
  rcases start_cases cs with ⟨h, body, rfl⟩ | ⟨h, rfl | ⟨body, rfl⟩⟩ | ⟨h, -⟩
  · rw [h]
    exact (namesIn_cons_separator body).symm
  · rfl
  · rw [h]
    have dot : namesIn ('.' :: '/' :: body) = namesIn body := namesIn_append ['.'] body
    exact (namesIn_cons_separator body).trans dot.symm
  · rw [h]
    rfl

/-- What follows a separator has no part in how a path starts. -/
theorem start_append_separator {xs : List Char} (h : xs ≠ []) (ys : List Char) :
    start (xs ++ '/' :: ys) = start xs := by
  rcases xs with _ | ⟨x, _ | ⟨x', xs⟩⟩
  · exact absurd rfl h
  · by_cases h₁ : x = '/'
    · subst h₁; rfl
    by_cases h₂ : x = '.'
    · subst h₂; rfl
    · simp [start, h₁, h₂]
  · by_cases h₁ : x = '/'
    · subst h₁; rfl
    by_cases h₂ : x = '.'
    · subst h₂
      by_cases h₃ : x' = '/'
      · subst h₃; rfl
      · simp [start, h₃]
    · simp [start, h₁, h₂]

/-! ### Paths with names at their end -/

/-- `p` is `root` with some names at its end. -/
structure Extends (p root : Path) (ns : List String) : Prop where
  start : start p.text.toList = start root.text.toList
  names : p.names = root.names ++ ns

variable {p root : Path} {ns : List String} {name : String}

theorem Extends.refl (p : Path) : p.Extends p [] := ⟨rfl, (List.append_nil _).symm⟩

theorem Extends.parts (h : p.Extends root ns) : p.parts = root.parts ++ ns := by
  unfold Path.parts
  rw [h.start, h.names]
  split
  · rfl
  · rfl

/-- A name is no component that names nothing, and has no separator. -/
def IsName (name : String) : Prop := '/' ∉ name.toList ∧ isVoid name.toList = false

theorem isName_of_isSegment (h : IsSegment name) : IsName name := by
  obtain ⟨text, slash, -, dot, -⟩ := h
  refine ⟨slash, ?_⟩
  unfold isVoid
  rw [Bool.or_eq_false_iff, beq_eq_false_iff_ne, beq_eq_false_iff_ne]
  exact ⟨fun h => text (String.toList_inj.mp h), fun h => dot (String.toList_inj.mp h)⟩

theorem IsName.namesIn (h : IsName name) : Path.namesIn name.toList = [name.toList] := by
  rw [namesIn_of_notMem h.1, List.filter_cons_of_pos (by rw [isNamed, h.2]; rfl), List.filter_nil]

theorem IsName.start (h : IsName name) : Path.start name.toList = [] := by
  rcases start_cases name.toList with ⟨-, body, hb⟩ | ⟨-, hb | ⟨body, hb⟩⟩ | ⟨h, -⟩
  · exact absurd (hb ▸ List.mem_cons_self) h.1
  · have void := h.2
    rw [hb] at void
    exact absurd void (by decide)
  · exact absurd (hb ▸ List.mem_cons_of_mem _ List.mem_cons_self) h.1
  · exact h

/-- A path whose text has a separator and a plain name at its end has one more name. -/
theorem Extends.snoc {q : Path} (h : p.Extends root ns) (hn : IsName name) (xs : List Char)
    (text : q.text.toList = xs ++ '/' :: name.toList)
    (start_eq : Path.start (xs ++ '/' :: name.toList) = Path.start p.text.toList)
    (names_eq : Path.namesIn xs = Path.namesIn p.text.toList) : q.Extends root (ns ++ [name]) := by
  refine ⟨?_, ?_⟩
  · rw [text, start_eq, h.start]
  · rw [← List.append_assoc, ← h.names, Path.names, text, namesIn_append, names_eq, hn.namesIn,
      List.map_append, List.map_singleton, String.ofList_toList, Path.names]

/-- **A plain name that is joined to a path** is one more name at its end. -/
theorem Extends.join (h : p.Extends root ns) (hn : IsName name) :
    (p.join ⟨name⟩).Extends root (ns ++ [name]) := by
  have relative : (⟨name⟩ : Path).isAbsolute = false := by
    unfold isAbsolute
    rw [beq_eq_false_iff_ne]
    intro absolute
    exact hn.1 (List.mem_of_mem_head? absolute)
  unfold Path.join
  rw [relative, if_neg Bool.false_ne_true]
  rcases hl : p.text.toList.getLast? with _ | c
  · -- the empty path has neither a start nor names
    have empty : p.text.toList = [] := List.getLast?_eq_none_iff.mp hl
    have none : p.names = [] := by rw [Path.names, empty]; rfl
    refine ⟨?_, ?_⟩
    · rw [← h.start, empty]
      exact hn.start
    · rw [← List.append_assoc, ← h.names, none, Path.names, hn.namesIn, List.map_singleton,
        String.ofList_toList, List.nil_append]
  · obtain ⟨ys, hy⟩ := List.getLast?_eq_some_iff.mp hl
    by_cases hc : c = '/'
    · -- the path ends in a separator, and the name is put behind it
      subst hc
      refine h.snoc hn ys ?_ ?_ ?_
      · simp [hy]
      · rw [hy]
        by_cases hys : ys = []
        · subst hys; rfl
        · rw [start_append_separator hys, start_append_separator hys]
      · rw [hy, namesIn_append]
        exact (List.append_nil _).symm
    · -- a separator is put between the path and the name
      refine h.snoc hn p.text.toList ?_ ?_ rfl
      · split <;> simp_all
      · exact start_append_separator (by rw [hy]; simp) _

/-! ### The parent of a path -/

/-- The start of a path starts as the path. -/
theorem start_start (cs : List Char) : start (start cs) = start cs := by
  rcases start_cases cs with ⟨h, -⟩ | ⟨h, -⟩ | ⟨h, -⟩ <;> rw [h] <;> rfl

theorem start_append_drop (cs : List Char) : start cs ++ cs.drop (start cs).length = cs := by
  rcases start_cases cs with ⟨h, body, rfl⟩ | ⟨h, rfl | ⟨body, rfl⟩⟩ | ⟨h, -⟩ <;> rw [h] <;> rfl

/-- Pieces without those at their end that name nothing. -/
def trimmed (ps : List (List Char)) : List (List Char) := (ps.reverse.dropWhile isVoid).reverse

theorem eq_trimmed_append (ps : List (List Char)) :
    ∃ voids, ps = trimmed ps ++ voids ∧ voids.filter isNamed = [] := by
  refine ⟨(ps.reverse.takeWhile isVoid).reverse, ?_, ?_⟩
  · rw [trimmed, ← List.reverse_append, List.takeWhile_append_dropWhile, List.reverse_reverse]
  · refine List.filter_eq_nil_iff.mpr fun piece hm => ?_
    rw [isNamed, List.mem_takeWhile_imp (List.mem_reverse.mp hm)]
    exact Bool.false_ne_true

theorem filter_trimmed (ps : List (List Char)) :
    (trimmed ps).filter isNamed = ps.filter isNamed := by
  obtain ⟨voids, hp, hv⟩ := eq_trimmed_append ps
  calc (trimmed ps).filter isNamed
      = (trimmed ps ++ voids).filter isNamed := by
        rw [List.filter_append, hv, List.append_nil]
    _ = ps.filter isNamed := by rw [← hp]

theorem intercalate_append {ps : List (List Char)} (h : ps ≠ []) (piece : List Char)
    (rest : List (List Char)) : List.intercalate ['/'] (ps ++ piece :: rest) =
      List.intercalate ['/'] ps ++ '/' :: List.intercalate ['/'] (piece :: rest) := by
  induction ps with
  | nil => exact absurd rfl h
  | cons p ps ih =>
      by_cases hps : ps = []
      · subst hps
        rw [List.singleton_append, List.intercalate_cons_cons, List.intercalate_singleton,
          List.append_assoc, List.singleton_append]
      · rw [List.cons_append, List.intercalate_cons_of_ne_nil (by simp), ih hps,
          List.intercalate_cons_of_ne_nil hps]
        simp only [List.append_assoc]

/-- A path that stops before a piece starts as the whole path. -/
theorem start_append_intercalate {cs : List Char} {ps rest : List (List Char)} {piece : List Char}
    (h : pieces '/' (cs.drop (start cs).length) = ps ++ piece :: rest) :
    start (start cs ++ List.intercalate ['/'] ps) = start cs := by
  by_cases hps : ps = []
  · subst hps
    rw [List.intercalate_nil, List.append_nil, start_start]
  · have body : cs.drop (start cs).length =
        List.intercalate ['/'] ps ++ '/' :: List.intercalate ['/'] (piece :: rest) := by
      rw [← intercalate_append hps, ← h, pieces_eq_splitOn, List.intercalate_splitOn]
    have whole : start cs ++ List.intercalate ['/'] ps ++
        '/' :: List.intercalate ['/'] (piece :: rest) = cs := by
      rw [List.append_assoc, ← body, start_append_drop]
    by_cases empty : start cs ++ List.intercalate ['/'] ps = []
    · -- nothing stands before the piece, so the path has no start
      rw [empty, (List.append_eq_nil_iff.mp empty).1]
      rfl
    · exact (start_append_separator empty _).symm.trans (congrArg start whole)

/-- What stands before the last piece with a name, without the pieces there that name nothing. -/
theorem namesIn_start_append {cs : List Char} {above : List (List Char)} {last : List Char}
    {voids : List (List Char)}
    (h : pieces '/' (cs.drop (start cs).length) = above ++ last :: voids) :
    start (start cs ++ List.intercalate ['/'] (trimmed above)) = start cs ∧
      namesIn (start cs ++ List.intercalate ['/'] (trimmed above)) =
        above.filter isNamed := by
  obtain ⟨voids', habove, -⟩ := eq_trimmed_append above
  obtain ⟨piece, rest, hrest⟩ :=
    List.exists_cons_of_ne_nil (show voids' ++ last :: voids ≠ [] by simp)
  have split : pieces '/' (cs.drop (start cs).length) = trimmed above ++ piece :: rest := by
    rw [← hrest, ← List.append_assoc, ← habove, h]
  have starts := start_append_intercalate split
  refine ⟨starts, ?_⟩
  rw [← namesIn_drop_start, starts, List.drop_left, namesIn_intercalate, filter_trimmed]
  intro piece hm
  exact notMem_of_mem_pieces (split ▸ List.mem_append_left _ hm)

/-- **The parent of a path** has all its names but the last. -/
theorem Extends.parent? (h : p.Extends root (ns ++ [name])) :
    ∃ q, p.parent? = some q ∧ q.Extends root ns := by
  have names := congrArg (List.map String.ofList) (namesIn_drop_start p.text.toList)
  rw [show (namesIn p.text.toList).map String.ofList = _ from h.names] at names
  unfold namesIn at names
  rw [← filter_trimmed, trimmed] at names
  obtain ⟨voids, hp, -⟩ :=
    eq_trimmed_append (pieces '/' (p.text.toList.drop (Path.start p.text.toList).length))
  rw [trimmed] at hp
  unfold Path.parent? components
  dsimp only
  have head := List.head?_dropWhile_not isVoid
    (pieces '/' (p.text.toList.drop (Path.start p.text.toList).length)).reverse
  rcases hr : (pieces '/' (p.text.toList.drop (Path.start p.text.toList).length)).reverse.dropWhile
      isVoid with _ | ⟨last, above⟩
  · -- the last name of the path is among its pieces
    rw [hr] at names
    exact absurd names.symm (by simp)
  · rw [hr] at head hp names
    have last_name : isNamed last = true := by
      rw [isNamed, show isVoid last = false from head]
      rfl
    rw [List.reverse_cons, List.append_assoc] at hp
    rw [List.reverse_cons, List.filter_append, List.filter_cons_of_pos last_name, List.map_append,
      ← List.append_assoc] at names
    obtain ⟨starts, left⟩ := namesIn_start_append hp
    rw [trimmed, List.reverse_reverse] at starts left
    refine ⟨_, rfl, ?_, ?_⟩
    · rw [String.toList_ofList, starts, h.start]
    · rw [Path.names, String.toList_ofList, left]
      exact (List.append_inj' names rfl).1

/-- The directory of a path, where it is named, has all names of the path but the last. -/
theorem Extends.directory? (h : p.Extends root (ns ++ [name])) {dir : Path}
    (hd : p.directory? = some dir) : dir.Extends root ns := by
  obtain ⟨q, hq, extends'⟩ := h.parent?
  unfold Path.directory? at hd
  rw [hq, Option.filter_eq_some_iff] at hd
  cases hd.1
  exact extends'

/-- A path with two more names than another one has a directory. -/
theorem Extends.exists_directory? {n : String} (h : p.Extends root (ns ++ [name] ++ [n])) :
    ∃ dir, p.directory? = some dir := by
  obtain ⟨q, hq, extends'⟩ := h.parent?
  refine ⟨q, ?_⟩
  unfold Path.directory?
  rw [hq, Option.filter_eq_some_iff]
  refine ⟨rfl, decide_eq_true fun empty => ?_⟩
  -- the empty path has no names
  have names := extends'.names
  rw [Path.names, empty] at names
  exact absurd names.symm (by simp [namesIn, pieces, isNamed, isVoid])

end Path

end Subgraph
