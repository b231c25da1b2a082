import Subgraph.Proofs.Components

/-!
# Directories — the directory of a path as text

The directory that a path names is a piece of the text of that path.

* `directory?_cases`: where the directory of a path comes from.
* `names_of_directory?`: it has the names of the path but the last.
* `isPrefix_of_directory?`: the path starts with its text, and has more.
* `Path.IsLasting`: no path ends in a component that names nothing, if it is the directory of
  another.
-/

namespace Subgraph.Path

open Text

variable {p dir : Path}

/-- The pieces of a path are some, one that names something, and some that do not; its directory has
the text of the first. -/
theorem directory?_cases (h : p.directory? = some dir) : ∃ above last voids,
    pieces '/' (p.text.toList.drop (start p.text.toList).length) = above ++ last :: voids ∧
      isNamed last = true ∧ voids.filter isNamed = [] ∧ dir.text ≠ "" ∧
      dir.text.toList = start p.text.toList ++ List.intercalate ['/'] (trimmed above) := by
  unfold directory? at h
  rw [Option.filter_eq_some_iff] at h
  obtain ⟨parent, text⟩ := h
  unfold parent? components at parent
  dsimp only at parent
  obtain ⟨voids, hp, named⟩ :=
    eq_trimmed_append (pieces '/' (p.text.toList.drop (start p.text.toList).length))
  rw [trimmed] at hp
  have head := List.head?_dropWhile_not isVoid
    (pieces '/' (p.text.toList.drop (start p.text.toList).length)).reverse
  rcases hr : (pieces '/' (p.text.toList.drop (start p.text.toList).length)).reverse.dropWhile
      isVoid with _ | ⟨last, above⟩
  · -- nothing is named, so the parent is none or the empty path
    rw [hr] at parent
    dsimp only at parent
    split at parent
    · cases parent
      exact absurd text (by decide)
    · cases parent
  · rw [hr] at head hp parent
    cases parent
    rw [List.reverse_cons, List.append_assoc] at hp
    refine ⟨above.reverse, last, voids, hp, ?_, named, of_decide_eq_true text, ?_⟩
    · rw [isNamed, show isVoid last = false from head]
      rfl
    · rw [String.toList_ofList, trimmed, List.reverse_reverse]

/-- **The directory of a path** has the names of the path but the last, and starts as the path. -/
theorem names_of_directory? (h : p.directory? = some dir) :
    (∃ n, p.names = dir.names ++ [n]) ∧ start dir.text.toList = start p.text.toList := by
  obtain ⟨above, last, voids, hp, named, void, -, text⟩ := directory?_cases h
  obtain ⟨starts, left⟩ := namesIn_start_append hp
  refine ⟨⟨String.ofList last, ?_⟩, by rw [text, starts]⟩
  rw [names, names, text, left, ← namesIn_drop_start, namesIn, hp, List.filter_append,
    List.filter_cons_of_pos named, void, List.map_append, List.map_singleton]

/-- A path is its start with all its names. -/
theorem extends_start (p : Path) :
    p.Extends ⟨String.ofList (start p.text.toList)⟩ p.names := by
  refine ⟨by rw [String.toList_ofList, start_start], ?_⟩
  have none : namesIn (start p.text.toList) = [] := by
    rcases start_cases p.text.toList with ⟨h, -⟩ | ⟨h, -⟩ | ⟨h, -⟩ <;> rw [h] <;> rfl
  have left : (⟨String.ofList (start p.text.toList)⟩ : Path).names = [] := by
    rw [names, String.toList_ofList, none]
    rfl
  rw [left, List.nil_append]

/-- The text of a path starts with that of its directory, and has more. -/
theorem isPrefix_of_directory? (h : p.directory? = some dir) :
    ∃ rest, rest ≠ [] ∧ p.text.toList = dir.text.toList ++ rest := by
  obtain ⟨above, last, voids, hp, named, -, -, text⟩ := directory?_cases h
  obtain ⟨voids', habove, -⟩ := eq_trimmed_append above
  have body : p.text.toList.drop (start p.text.toList).length =
      List.intercalate ['/'] (trimmed above ++ (voids' ++ last :: voids)) := by
    rw [← List.append_assoc, ← habove, ← hp, pieces_eq_splitOn, List.intercalate_splitOn]
  rw [text]
  by_cases none : trimmed above = []
  · refine ⟨p.text.toList.drop (start p.text.toList).length, fun empty => ?_, ?_⟩
    · -- a piece that names something is not empty
      rw [empty, show pieces '/' [] = [[]] from rfl] at hp
      have mem : last ∈ [([] : List Char)] := hp ▸ List.mem_append_right _ List.mem_cons_self
      rw [List.mem_singleton.mp mem] at named
      cases named
    · rw [none, List.intercalate_nil, List.append_nil, start_append_drop]
  · obtain ⟨piece, rest, hrest⟩ :=
      List.exists_cons_of_ne_nil (show voids' ++ last :: voids ≠ [] by simp)
    rw [hrest, intercalate_append none] at body
    refine ⟨_, List.cons_ne_nil '/' (List.intercalate ['/'] (piece :: rest)), ?_⟩
    rw [List.append_assoc, ← body, start_append_drop]

theorem length_lt_of_directory? (h : p.directory? = some dir) :
    dir.text.toList.length < p.text.toList.length := by
  obtain ⟨rest, some, text⟩ := isPrefix_of_directory? h
  rw [text, List.length_append]
  exact Nat.lt_add_of_pos_right (List.length_pos_iff.mpr some)

/-- The last component names something, unless none does. -/
def IsLasting (p : Path) : Prop :=
  ∀ before last, pieces '/' p.text.toList = before ++ [last] → isNamed last = true ∨ p.names = []

/-- The pieces of what is put together of pieces, behind a start. -/
theorem isLasting_of_pieces {before : List (List Char)} {last : List Char}
    (h : pieces '/' p.text.toList = before ++ [last]) (named : isNamed last = true) :
    p.IsLasting := by
  intro before' last' h'
  rw [h] at h'
  obtain ⟨-, same⟩ := List.append_inj' h' rfl
  cases same
  exact .inl named

/-- The last piece that is left names something. -/
theorem trimmed_cases (ps : List (List Char)) :
    trimmed ps = [] ∨ ∃ before last, trimmed ps = before ++ [last] ∧ isNamed last = true := by
  unfold trimmed
  have head := List.head?_dropWhile_not isVoid ps.reverse
  rcases hr : ps.reverse.dropWhile isVoid with _ | ⟨last, before⟩
  · exact .inl rfl
  · rw [hr] at head
    refine .inr ⟨before.reverse, last, List.reverse_cons, ?_⟩
    rw [isNamed, show isVoid last = false from head]
    rfl

theorem pieces_intercalate {ps : List (List Char)} (some : ps ≠ [])
    (free : ∀ piece ∈ ps, '/' ∉ piece) : pieces '/' (List.intercalate ['/'] ps) = ps := by
  rw [pieces_eq_splitOn, List.splitOn_intercalate '/' free some]

/-- Where the first pieces of a path are put together behind its start, the last of them is the last
component. -/
theorem exists_pieces_start {cs final : List Char} {before rest : List (List Char)}
    (split : pieces '/' (cs.drop (start cs).length) = before ++ final :: rest) (more : rest ≠ [])
    (named : isNamed final = true) : ∃ before',
      pieces '/' (start cs ++ List.intercalate ['/'] (before ++ [final])) = before' ++ [final] := by
  have free : ∀ piece ∈ before ++ [final], '/' ∉ piece := by
    intro piece hm
    have mem : piece ∈ pieces '/' (cs.drop (start cs).length) := by
      rw [split, List.append_cons]
      exact List.mem_append_left rest hm
    exact notMem_of_mem_pieces mem
  rcases start_cases cs with ⟨hs, -⟩ | ⟨hs, rfl | ⟨body, rfl⟩⟩ | ⟨hs, -⟩
  · -- the root: there is an empty component before the separator
    refine ⟨[] :: before, ?_⟩
    rw [hs, List.singleton_append, ← List.nil_append ('/' :: _), pieces_append,
      pieces_intercalate (by simp) free]
    rfl
  · -- behind a point alone there is nothing
    rw [hs, show pieces '/' (['.'].drop ['.'].length) = [[]] from rfl] at split
    have one := congrArg List.length split
    have more := List.length_pos_iff.mpr more
    simp only [List.length_append, List.length_cons, List.length_nil] at one
    omega
  · -- a point, and a separator behind it
    rw [hs, show ('.' :: '/' :: body).drop ['.'].length = [] ++ '/' :: body from rfl,
      pieces_append] at split
    rcases before with _ | ⟨first, before⟩
    · cases (List.cons.inj split).1
      cases named
    · cases (List.cons.inj split).1
      have free' : ∀ piece ∈ before ++ [final], '/' ∉ piece :=
        fun piece hm => free piece (List.mem_cons_of_mem _ hm)
      have behind : List.intercalate ['/'] ([] :: before ++ [final]) =
          '/' :: List.intercalate ['/'] (before ++ [final]) := by
        rw [List.cons_append, List.intercalate_cons_of_ne_nil (by simp)]
        rfl
      refine ⟨['.'] :: before, ?_⟩
      rw [hs, behind, pieces_append, pieces_intercalate (by simp) free']
      rfl
  · exact ⟨before, by rw [hs, List.nil_append, pieces_intercalate (by simp) free]⟩

/-- **The directory of a path is lasting.** -/
theorem isLasting_of_directory? (h : p.directory? = some dir) : dir.IsLasting := by
  obtain ⟨above, last, voids, hp, -, -, -, text⟩ := directory?_cases h
  obtain ⟨voids', habove, -⟩ := eq_trimmed_append above
  rcases trimmed_cases above with none | ⟨before, final, some, named⟩
  · -- nothing is named
    obtain ⟨-, left⟩ := namesIn_start_append hp
    intro _ _ _
    right
    rw [names, text, left, ← filter_trimmed, none]
    rfl
  · rw [habove, some, List.append_assoc, List.append_assoc, List.singleton_append] at hp
    obtain ⟨before', whole⟩ := exists_pieces_start hp (by simp) named
    rw [← some, ← text] at whole
    exact isLasting_of_pieces whole named

end Subgraph.Path
