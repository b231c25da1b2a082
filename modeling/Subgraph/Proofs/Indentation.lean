import Mathlib.Data.List.Destutter
import Mathlib.Data.List.Infix
import Mathlib.Data.List.Perm.Subperm
import Subgraph.Proofs.Balance
import Subgraph.Proofs.Placement

/-!
# Indentation — how far a line is indented

A line stands two spaces further in for each earlier line that still holds an open bracket.  Which
lines do is a matter of the brackets alone: one is closed where more closing than opening brackets
have come after it.

* `HoldsOpen`, `openLines`: the lines that hold an open bracket at a line, told without a stack.
* `length_openLines_le`, `length_openLines_eq`: a line adds one level, however many brackets it
  opens.
* `getElem?_matchBrackets`: the entries of the stack are the brackets that are not closed.
* `Stands.step`: what the walk over the lines keeps — the order of the stack, and its entries.
* `format_indents`: every line of the result is indented by the lines that hold an open bracket.
-/

namespace Subgraph.Layout

open Text

variable {ls : List (List Char)} {i j : Nat}

/-! ### Lines and brackets by number -/

/-- A line by its number; an empty one behind the last. -/
def lineAt (ls : List (List Char)) (i : Nat) : List Char := ls[i]?.getD []

/-- The brackets of the lines from number `i` on and before number `j`. -/
def bracketsWithin (ls : List (List Char)) (i j : Nat) : List Bracket :=
  lineBrackets ((ls.drop i).take (j - i))

@[simp] theorem bracketsWithin_self (ls : List (List Char)) (i : Nat) :
    bracketsWithin ls i i = [] := by
  rw [bracketsWithin, Nat.sub_self, List.take_zero, lineBrackets_nil]

theorem bracketsWithin_append {k : Nat} (hij : i ≤ j) (hjk : j ≤ k) :
    bracketsWithin ls i k = bracketsWithin ls i j ++ bracketsWithin ls j k := by
  have parts : k - i = (j - i) + (k - j) := by omega
  rw [bracketsWithin, bracketsWithin, bracketsWithin, lineBrackets, lineBrackets, lineBrackets,
    parts, List.take_add, List.drop_drop, Nat.add_sub_cancel' hij, List.flatMap_append]

@[simp] theorem bracketsWithin_succ (ls : List (List Char)) (i : Nat) :
    bracketsWithin ls i (i + 1) = brackets (lineAt ls i) := by
  rw [bracketsWithin, lineAt, Nat.add_sub_cancel_left, ← List.head?_drop]
  rcases ls.drop i with _ | ⟨line, rest⟩
  · rfl
  · exact List.append_nil _

/-- The line `j` comes after the line `i` with none but blank ones between them. -/
structure Follows (ls : List (List Char)) (i j : Nat) : Prop where
  after : i < j
  blank : ∀ k, i < k → k < j → trim (lineAt ls k) = []

theorem brackets_of_blank {line : List Char} (h : trim line = []) : brackets line = [] := by
  rw [← brackets_trim, h]
  rfl

theorem bracketsWithin_blank (hij : i ≤ j) (blank : ∀ k, i ≤ k → k < j → trim (lineAt ls k) = []) :
    bracketsWithin ls i j = [] := by
  induction j, hij using Nat.le_induction with
  | base => exact bracketsWithin_self ls i
  | succ j hij ih =>
      rw [bracketsWithin_append hij j.le_succ, ih fun k hi hk => blank k hi (Nat.lt_succ_of_lt hk),
        bracketsWithin_succ, brackets_of_blank (blank j hij j.lt_succ_self), List.append_nil]

theorem Follows.bracketsWithin_own (h : Follows ls i j) :
    bracketsWithin ls i j = brackets (lineAt ls i) := by
  rw [bracketsWithin_append (Nat.le_succ i) h.after, bracketsWithin_succ,
    bracketsWithin_blank h.after h.blank, List.append_nil]

/-! ### Lines that hold an open bracket -/

/-- Line `j` holds a bracket that is open at line `i`, behind the closing brackets with which that
leads: after the bracket there are never more closing than opening ones up to there. -/
def HoldsOpen (ls : List (List Char)) (i j : Nat) : Prop :=
  ∃ later, .opening :: later <:+ brackets (lineAt ls j) ∧
    ¬ Overcloses (later ++ bracketsWithin ls (j + 1) i ++
      List.replicate (leadingClosers (lineAt ls i)) .closing)

instance (ls : List (List Char)) (i j : Nat) : Decidable (HoldsOpen ls i j) :=
  decidable_of_iff
    (∃ bs ∈ (brackets (lineAt ls j)).tails, bs.head? = some .opening ∧
      depth (bs.tail ++ bracketsWithin ls (j + 1) i ++
        List.replicate (leadingClosers (lineAt ls i)) .closing) 0 ≠ none) <| by
    simp only [HoldsOpen, overcloses_iff, List.mem_tails]
    constructor
    · rintro ⟨bs, sub, first, some⟩
      obtain ⟨later, rfl⟩ := List.head?_eq_some_iff.mp first
      exact ⟨later, sub, some⟩
    · rintro ⟨later, sub, some⟩
      exact ⟨_, sub, rfl, some⟩

/-- The earlier lines that hold an open bracket at line `i`. -/
def openLines (ls : List (List Char)) (i : Nat) : List Nat :=
  (List.range i).filter fun j => HoldsOpen ls i j

theorem mem_openLines : j ∈ openLines ls i ↔ j < i ∧ HoldsOpen ls i j := by
  simp [openLines]

theorem nodup_openLines (ls : List (List Char)) (i : Nat) : (openLines ls i).Nodup :=
  List.nodup_range.filter _

/-! ### What one line adds -/

/-- The brackets of a line behind the closing ones that it leads with. -/
def ownBrackets (line : List Char) : List Bracket := (brackets line).drop (leadingClosers line)

theorem brackets_eq_leading (line : List Char) :
    brackets line = List.replicate (leadingClosers line) .closing ++ ownBrackets line := by
  rw [← take_leadingClosers, ownBrackets, List.take_append_drop]

/-- The brackets up to a line are those up to the line before, its own, and no others. -/
theorem Follows.bracketsWithin_before (h : Follows ls i j) {k : Nat} (hk : k < i) :
    bracketsWithin ls (k + 1) j = bracketsWithin ls (k + 1) i ++
      List.replicate (leadingClosers (lineAt ls i)) .closing ++ ownBrackets (lineAt ls i) := by
  rw [bracketsWithin_append hk h.after.le, h.bracketsWithin_own, List.append_assoc,
    ← brackets_eq_leading]

/-- **What is open at a line was open at the line before**, or has been opened by that. -/
theorem Follows.mem_openLines {k : Nat} (h : Follows ls i j) (hk : k ∈ openLines ls j) :
    k ∈ i :: openLines ls i := by
  obtain ⟨before, later, sub, within⟩ := Layout.mem_openLines.mp hk
  rcases Nat.lt_trichotomy k i with less | rfl | more
  · refine List.mem_cons_of_mem _ (Layout.mem_openLines.mpr ⟨less, later, sub, fun excess => ?_⟩)
    rw [h.bracketsWithin_before less, ← List.append_assoc, ← List.append_assoc] at within
    exact within ((excess.append _).append _)
  · exact List.mem_cons_self
  · -- a blank line opens nothing
    rw [brackets_of_blank (h.blank k more before)] at sub
    exact absurd (List.suffix_nil.mp sub) (List.cons_ne_nil _ _)

/-- **A line adds at most one level**, however many brackets it opens. -/
theorem length_openLines_le (h : Follows ls i j) :
    (openLines ls j).length ≤ (openLines ls i).length + 1 :=
  (List.subperm_of_subset (nodup_openLines ls j) fun _ hk => h.mem_openLines hk).length_le

/-- Of two brackets that one line opens, the first one closed makes no difference. -/
example : (List.range 6).map (openLines (lines "f([\n1\n], (\n2\n)\n)".toList)) =
    [[], [0], [0], [0, 2], [0], []] := by
  decide

/-! ### The entries of the stack -/

/-- **An entry of the stack is that of a bracket that is not closed.**  Counted from the innermost
one, its place is the number of brackets that have come after it and are open; that goes for the
brackets of the line at hand, and for the entries that were there before. -/
theorem getElem?_matchBrackets {n : Nat} {bs : List Bracket} {stack left : List Nat}
    (h : matchBrackets n bs stack = some left) (r k : Nat) : left[r]? = some k ↔
      (k = n ∧ ∃ later, .opening :: later <:+ bs ∧ depth later 0 = some r) ∨
        ∃ r₀, stack[r₀]? = some k ∧ depth bs r₀ = some r := by
  induction bs generalizing stack with
  | nil =>
      cases h
      simp [depth]
  | cons b bs ih =>
      cases b with
      | opening =>
          rw [ih h]
          constructor
          · rintro (⟨own, later, sub, place⟩ | ⟨_ | r₀, entry, place⟩)
            · exact .inl ⟨own, later, sub.trans (List.suffix_cons _ _), place⟩
            · cases entry
              exact .inl ⟨rfl, bs, List.suffix_rfl, place⟩
            · exact .inr ⟨r₀, entry, place⟩
          · rintro (⟨rfl, later, sub, place⟩ | ⟨r₀, entry, place⟩)
            · rcases List.suffix_cons_iff.mp sub with same | sub
              · cases same
                exact .inr ⟨0, rfl, place⟩
              · exact .inl ⟨rfl, later, sub, place⟩
            · exact .inr ⟨r₀ + 1, entry, place⟩
      | closing =>
          cases stack with
          | nil => cases h
          | cons top stack =>
              rw [ih h]
              refine or_congr (and_congr_right fun _ => exists_congr fun later => ?_) ?_
              · simp [List.suffix_cons_iff]
              · constructor
                · rintro ⟨r₀, entry, place⟩
                  exact ⟨r₀ + 1, entry, place⟩
                · rintro ⟨_ | r₀, entry, place⟩
                  · cases place
                  · exact ⟨r₀, entry, place⟩

/-- Where more brackets are opened than closed, one of them is not closed. -/
theorem exists_unclosed {bs : List Bracket} (within : ¬ Overcloses bs)
    (more : bs.count .closing < bs.count .opening) :
    ∃ later, .opening :: later <:+ bs ∧ ¬ Overcloses later := by
  obtain ⟨m, hm⟩ := Option.ne_none_iff_exists'.mp (mt (overcloses_iff bs).mpr within)
  have count := count_of_depth hm
  have length := length_matchBrackets 0 bs []
  rw [List.length_nil, hm, Option.map_eq_some_iff] at length
  obtain ⟨left, all, rfl⟩ := length
  obtain ⟨top, rest, rfl⟩ := List.exists_cons_of_length_pos (by omega : 0 < left.length)
  rcases (getElem?_matchBrackets all 0 top).mp rfl with ⟨-, later, sub, open'⟩ | ⟨_, entry, -⟩
  · refine ⟨later, sub, fun excess => ?_⟩
    rw [(overcloses_iff later).mp excess] at open'
    cases open'
  · cases entry

/-- **A line adds one level**, when its own brackets close nothing of the lines before and leave
some bracket open, and the next line leads with no closing one. -/
theorem length_openLines_eq (h : Follows ls i j)
    (within : ¬ Overcloses (ownBrackets (lineAt ls i)))
    (more : (ownBrackets (lineAt ls i)).count .closing <
      (ownBrackets (lineAt ls i)).count .opening)
    (leads : leadingClosers (lineAt ls j) = 0) :
    (openLines ls j).length = (openLines ls i).length + 1 := by
  have once : (i :: openLines ls i).Nodup :=
    List.nodup_cons.mpr ⟨fun own => absurd (mem_openLines.mp own).1 (Nat.lt_irrefl i),
      nodup_openLines ls i⟩
  refine ((List.perm_ext_iff_of_nodup (nodup_openLines ls j) once).mpr fun k =>
    ⟨fun hk => h.mem_openLines hk, fun hk => ?_⟩).length_eq
  rw [mem_openLines, HoldsOpen, leads, List.replicate_zero]
  simp only [List.append_nil]
  rcases List.mem_cons.mp hk with rfl | old
  · obtain ⟨later, sub, unclosed⟩ := exists_unclosed within more
    refine ⟨h.after, later, sub.trans (List.drop_suffix _ _), ?_⟩
    rwa [bracketsWithin_blank h.after h.blank, List.append_nil]
  · obtain ⟨before, later, sub, unclosed⟩ := mem_openLines.mp old
    refine ⟨before.trans h.after, later, sub, ?_⟩
    rwa [h.bracketsWithin_before before, ← List.append_assoc, ← List.append_assoc,
      overcloses_append_iff within]

/-! ### The order of the stack -/

/-- No entry of the stack is greater than one further in, and none is greater than the line at
hand. -/
def IsOrdered (n : Nat) (stack : List Nat) : Prop := (n :: stack).Pairwise (· ≥ ·)

theorem IsOrdered.kept {n : Nat} {bs : List Bracket} {stack left : List Nat}
    (ordered : IsOrdered n stack) (h : matchBrackets n bs stack = some left) :
    IsOrdered n left := by
  induction bs generalizing stack with
  | nil =>
      cases h
      exact ordered
  | cons b bs ih =>
      cases b with
      | opening =>
          refine ih (List.pairwise_cons.mpr ⟨?_, ordered⟩) h
          exact List.forall_mem_cons.mpr ⟨le_rfl, (List.pairwise_cons.mp ordered).1⟩
      | closing =>
          cases stack with
          | nil => cases h
          | cons top stack =>
              refine ih (ordered.sublist ?_) h
              exact (List.sublist_cons_self top stack).cons_cons n

theorem IsOrdered.next {n : Nat} {stack : List Nat} (ordered : IsOrdered n stack) :
    IsOrdered (n + 1) stack := by
  obtain ⟨most, rest⟩ := List.pairwise_cons.mp ordered
  exact List.pairwise_cons.mpr ⟨fun k hk => (most k hk).trans n.le_succ, rest⟩

/-- The level is what is left of the stack when equal neighbours are taken together. -/
theorem levels_eq_length_destutter (stack : List Nat) :
    levels stack = (stack.destutter (· ≠ ·)).length := by
  fun_induction levels stack with
  | case1 => rfl
  | case2 => rfl
  | case3 n stack ih =>
      rw [ih, List.destutter_cons_cons, if_neg (not_not.mpr rfl), List.destutter_cons']
  | case4 m n stack other ih =>
      rw [ih, List.destutter_cons_cons, if_pos other, List.destutter_cons', List.length_cons]

/-! ### The walk -/

/-- Where the walk over the lines of a source stands before one of them: the entries of the stack
are the brackets of earlier lines that are not closed, in order. -/
structure Stands (ls : List (List Char)) (i : Nat) (s : State) : Prop where
  passed : s.passed = i
  ordered : IsOrdered i s.stack
  entry : ∀ r k, s.stack[r]? = some k ↔ k < i ∧ ∃ later,
    .opening :: later <:+ brackets (lineAt ls k) ∧
      depth (later ++ bracketsWithin ls (k + 1) i) 0 = some r

theorem stands_start (ls : List (List Char)) : Stands ls 0 {} where
  passed := rfl
  ordered := List.pairwise_singleton _ _
  entry r k := by simp

/-- **A line keeps the stack in order, and leaves on it what is not closed then.** -/
theorem Stands.step {s : State} (h : Stands ls i s) {left : List Nat} {started gap : Bool}
    (all : matchBrackets i (brackets (lineAt ls i)) s.stack = some left) :
    Stands ls (i + 1) ⟨s.passed + 1, left, started, gap⟩ where
  passed := congrArg Nat.succ h.passed
  ordered := (h.ordered.kept all).next
  entry r k := by
    dsimp only
    rw [getElem?_matchBrackets all]
    -- the brackets after an earlier one are those up to the line, and those of the line
    have onward {later : List Bracket} (before : k < i) :
        depth (later ++ bracketsWithin ls (k + 1) (i + 1)) 0 = some r ↔
          ∃ r₀, depth (later ++ bracketsWithin ls (k + 1) i) 0 = some r₀ ∧
            depth (brackets (lineAt ls i)) r₀ = some r := by
      rw [bracketsWithin_append before i.le_succ, bracketsWithin_succ, ← List.append_assoc,
        depth_append, Option.bind_eq_some_iff]
    constructor
    · rintro (⟨rfl, later, sub, place⟩ | ⟨r₀, entry, place⟩)
      · refine ⟨k.lt_succ_self, later, sub, ?_⟩
        rwa [bracketsWithin_self, List.append_nil]
      · obtain ⟨before, later, sub, place₀⟩ := (h.entry r₀ k).mp entry
        exact ⟨Nat.lt_succ_of_lt before, later, sub, (onward before).mpr ⟨r₀, place₀, place⟩⟩
    · rintro ⟨within, later, sub, place⟩
      rcases Nat.lt_succ_iff_lt_or_eq.mp within with before | rfl
      · obtain ⟨r₀, place₀, place⟩ := (onward before).mp place
        exact .inr ⟨r₀, (h.entry r₀ k).mpr ⟨before, later, sub, place₀⟩, place⟩
      · rw [bracketsWithin_self, List.append_nil] at place
        exact .inl ⟨rfl, later, sub, place⟩

/-- Closing brackets close as many open ones. -/
theorem depth_closing (n : Nat) {m r : Nat} :
    depth (List.replicate n .closing) m = some r ↔ m = n + r := by
  induction n generalizing m with
  | zero => simp [depth]
  | succ n ih =>
      cases m with
      | zero => simp [List.replicate_succ, depth]; omega
      | succ m =>
          rw [List.replicate_succ, depth, ih]
          omega

/-- **The level of a line is the number of the lines that hold an open bracket there.** -/
theorem Stands.levels_eq {s : State} (h : Stands ls i s) :
    levels (s.stack.drop (leadingClosers (lineAt ls i))) = (openLines ls i).length := by
  have order := (List.pairwise_cons.mp h.ordered).2.sublist
    (List.drop_sublist (leadingClosers (lineAt ls i)) s.stack)
  rw [levels_eq_length_destutter, order.destutter_eq_dedup]
  refine ((List.perm_ext_iff_of_nodup (List.nodup_dedup _) (nodup_openLines ls i)).mpr
    fun k => ?_).length_eq
  rw [List.mem_dedup, List.mem_iff_getElem?, mem_openLines, HoldsOpen]
  simp only [List.getElem?_drop, h.entry, overcloses_iff, ← ne_eq, Option.ne_none_iff_exists',
    depth_append _ (List.replicate _ _), Option.bind_eq_some_iff, depth_closing]
  constructor
  · rintro ⟨r, before, later, sub, place⟩
    exact ⟨before, later, sub, r, _, place, rfl⟩
  · rintro ⟨before, later, sub, r, _, place, rfl⟩
    exact ⟨r, before, later, sub, place⟩

/-! ### From line to line -/

/-- The walk over one line. -/
def passLine (s : State) (line : List Char) : Except Problem State :=
  match trim line with
  | [] => .ok { s with passed := s.passed + 1, gap := s.started }
  | text => (placeLine s text).map Prod.snd

/-- The walk over some lines. -/
def walk (s : State) (lines : List (List Char)) : Except Problem State := lines.foldlM passLine s

theorem leadingClosers_trim (line : List Char) :
    leadingClosers (trim line) = leadingClosers line := by
  rw [leadingClosers, filter_trim, leadingClosers]

variable {s : State} {ps : List Placed} {line : List Char} {rest : List (List Char)}

/-- **A line is placed at its level**, if it is not blank, and the walk goes on behind it. -/
theorem Stands.onward (h : Stands ls i s) (places : Places s (line :: rest) ps)
    (here : ls.drop i = line :: rest) : ∃ s' more, passLine s line = .ok s' ∧
      Stands ls (i + 1) s' ∧ Places s' rest more ∧ more <:+ ps ∧ ps.map Placed.indented =
        (if trim line = [] then [] else
          [List.replicate (2 * (openLines ls i).length) ' ' ++ trim line]) ++
          more.map Placed.indented := by
  have own : lineAt ls i = line := by rw [lineAt, ← List.head?_drop, here]; rfl
  cases places with
  | blank empty others =>
      refine ⟨_, _, by rw [passLine, empty], h.step ?_, others, List.suffix_rfl,
        by rw [if_pos empty]; rfl⟩
      rw [own, brackets_of_blank empty]
      rfl
  | @line _ _ text _ more left content any all others =>
      have all' : matchBrackets i (brackets (lineAt ls i)) s.stack = some left := by
        rwa [own, ← brackets_trim, content, ← h.passed]
      refine ⟨_, more, ?_, h.step all', others, List.suffix_cons _ _, ?_⟩
      · obtain ⟨c, cs, rfl⟩ := List.exists_cons_of_ne_nil any
        rw [passLine, content]
        dsimp only
        rw [placeLine_eq_ok all]
        rfl
      · have level := h.levels_eq
        rw [own, ← leadingClosers_trim, content] at level
        rw [if_neg (content ▸ any), List.map_cons, Placed.indented, level, content]
        rfl

/-- The lines that are not blank as they are to be shown, when the first of them has this number. -/
def indentedLines (ls : List (List Char)) (i : Nat) (rest : List (List Char)) : List (List Char) :=
  ((rest.zipIdx i).filter fun p => trim p.1 ≠ []).map fun p =>
    List.replicate (2 * (openLines ls p.2).length) ' ' ++ trim p.1

theorem indentedLines_cons (ls : List (List Char)) (i : Nat) (line : List Char)
    (rest : List (List Char)) : indentedLines ls i (line :: rest) =
      (if trim line = [] then [] else
        [List.replicate (2 * (openLines ls i).length) ' ' ++ trim line]) ++
        indentedLines ls (i + 1) rest := by
  rw [indentedLines, List.zipIdx_cons]
  split
  · next blank => rw [List.filter_cons_of_neg (by simpa using blank)]; rfl
  · next any => rw [List.filter_cons_of_pos (by simpa using any)]; rfl

/-- **Every line is placed at its level.** -/
theorem Stands.map_indented (h : Stands ls i s) (places : Places s rest ps)
    (here : ls.drop i = rest) : ps.map Placed.indented = indentedLines ls i rest := by
  induction rest generalizing i s ps with
  | nil =>
      cases places
      rfl
  | cons line rest ih =>
      obtain ⟨s', more, -, onward, others, -, shown⟩ := h.onward places here
      rw [shown, indentedLines_cons, ih onward others (by rw [← List.drop_drop, here]; rfl)]

/-- The walk over the first lines of a source that can be laid out comes to where the others can,
and what is placed from there on is the end of what is placed in all. -/
theorem Places.walk_take (places : Places {} ls ps) (hi : i ≤ ls.length) :
    ∃ s more, walk {} (ls.take i) = .ok s ∧ Stands ls i s ∧
      Places s (ls.drop i) more ∧ more <:+ ps := by
  induction i with
  | zero => exact ⟨{}, ps, rfl, stands_start ls, places, List.suffix_rfl⟩
  | succ i ih =>
      obtain ⟨s, more, walked, stands, others, sub⟩ := ih (Nat.le_of_succ_le hi)
      have here : ls.drop i = ls[i] :: ls.drop (i + 1) := List.drop_eq_getElem_cons hi
      rw [here] at others
      obtain ⟨s', more, passed, onward, others, sub', -⟩ := stands.onward others here
      refine ⟨s', more, ?_, onward, others, sub'.trans sub⟩
      rw [walk] at walked
      rw [walk, ← List.take_append_getElem hi, List.foldlM_append, walked]
      simp [bind, Except.bind, pure, Except.pure, passed]

/-- **However much of a line is matched, the stack is in order.** -/
theorem Stands.partway (h : Stands ls i s) (places : Places s (ls.drop i) ps)
    {first : List Bracket} (sub : first <+: brackets (lineAt ls i)) :
    ∃ stack, matchBrackets s.passed first s.stack = some stack ∧ IsOrdered i stack := by
  have enough : ∃ left, matchBrackets i (brackets (lineAt ls i)) s.stack = some left := by
    rw [lineAt, ← List.head?_drop]
    generalize ls.drop i = rest at places
    cases places with
    | done => exact ⟨_, rfl⟩
    | blank empty =>
        rw [List.head?_cons, Option.getD_some, brackets_of_blank empty]
        exact ⟨_, rfl⟩
    | line content _ all =>
        rw [← content, brackets_trim, h.passed] at all
        exact ⟨_, all⟩
  obtain ⟨left, all⟩ := enough
  obtain ⟨others, whole⟩ := sub
  rw [← whole, matchBrackets_append, Option.bind_eq_some_iff] at all
  obtain ⟨stack, here, -⟩ := all
  rw [h.passed]
  exact ⟨stack, here, h.ordered.kept here⟩

/-- How far the lines are indented when some lines are laid out. -/
structure Indents (ls result : List (List Char)) : Prop where
  /-- Two spaces for each earlier line that holds an open bracket. -/
  lines : result.filter (fun line => trim line ≠ []) = indentedLines ls 0 ls
  /-- No line adds more than one level, whatever it opens. -/
  most : ∀ i j, Follows ls i j → (openLines ls j).length ≤ (openLines ls i).length + 1
  /-- A line whose own brackets close nothing of the lines before, and leave one or several open,
  adds one level for a line that leads with no closing bracket. -/
  one : ∀ i j, Follows ls i j → ¬ Overcloses (ownBrackets (lineAt ls i)) →
    (ownBrackets (lineAt ls i)).count .closing < (ownBrackets (lineAt ls i)).count .opening →
    leadingClosers (lineAt ls j) = 0 → (openLines ls j).length = (openLines ls i).length + 1
  /-- At every moment, some lines passed and some brackets of the next one matched, the stack is in
  order, and without equal neighbours it has each line once. -/
  ordered : ∀ i ≤ ls.length, ∃ s, walk {} (ls.take i) = .ok s ∧ s.passed = i ∧
    ∀ first, first <+: brackets (lineAt ls i) → ∃ stack,
      matchBrackets s.passed first s.stack = some stack ∧ stack.Pairwise (· ≥ ·) ∧
        levels stack = (stack.destutter (· ≠ ·)).length ∧
        stack.destutter (· ≠ ·) = stack.dedup

/-- **How far the lines of a laid out source are indented.** -/
theorem format_indents {source text : String} (h : format source = .ok text) :
    Indents (lines source.toList) (lines text.toList) := by
  obtain ⟨ps, places, text_eq⟩ := format_eq_ok_iff.mp h
  have sound := places.isSound newline_notMem_of_mem_lines
  refine ⟨?_, fun i j => length_openLines_le, fun i j => length_openLines_eq, fun i hi => ?_⟩
  · rw [text_eq, lines_render sound, filter_resultLines sound]
    exact (stands_start _).map_indented places rfl
  · obtain ⟨s, more, walked, stands, others, -⟩ := places.walk_take hi
    refine ⟨s, walked, stands.passed, fun first sub => ?_⟩
    obtain ⟨stack, all, ordered⟩ := stands.partway others sub
    have order := (List.pairwise_cons.mp ordered).2
    exact ⟨stack, all, order, levels_eq_length_destutter stack, order.destutter_eq_dedup⟩

/-- Two brackets of one line that are closed on different ones, and a line with brackets of its
own. -/
theorem format_indents_closed_apart :
    format "f([\n1\n], (g(\n2\n)\n)\n)" =
        .ok "f([\n  1\n  ], (g(\n    2\n    )\n  )\n)\n" ∧
      Indents (lines "f([\n1\n], (g(\n2\n)\n)\n)".toList)
        (lines "f([\n  1\n  ], (g(\n    2\n    )\n  )\n)\n".toList) :=
  ⟨rfl, format_indents rfl⟩

end Subgraph.Layout
