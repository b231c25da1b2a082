import Subgraph.Proofs.Layout

/-!
# Balance — where the brackets of a source fail

The layout matches brackets against a stack, line by line, and each line in two steps.  What it
tells of a source is a matter of counting: of all brackets in order, shapes left out, there must
never be more closing than opening ones, and as many of both in the end.

* `Overcloses`: somewhere among some brackets there are more closing than opening ones.
* `depth_eq_none_iff`, `count_of_depth`: the number of open brackets by counting.
* `verdict_place`: what is told of some lines when brackets are open before them.
* `format_verdict`: a source is laid out if its brackets pass the count; if not, the problem is the
  first line on which they fail, or how many are left open.
-/

namespace Subgraph.Layout

open Text

/-! ### Counting -/

/-- Among the first of some brackets there are more closing than opening ones. -/
def Overcloses (bs : List Bracket) : Prop :=
  ∃ first, first <+: bs ∧ first.count .opening < first.count .closing

/-- A bracket closes nothing just when it makes more of its kind than are open. -/
theorem depth_eq_none_iff (bs : List Bracket) (n : Nat) : depth bs n = none ↔
    ∃ first, first <+: bs ∧ n + first.count .opening < first.count .closing := by
  induction bs generalizing n with
  | nil =>
      refine iff_of_false nofun ?_
      rintro ⟨first, sub, more⟩
      rw [List.prefix_nil.mp sub] at more
      exact absurd more (Nat.not_lt_zero _)
  | cons b bs ih =>
      have skip {P : List Bracket → Prop} (none : ¬ P []) :
          (∃ first, first <+: b :: bs ∧ P first) ↔ ∃ first, first <+: bs ∧ P (b :: first) := by
        simp only [List.prefix_cons_iff]
        constructor
        · rintro ⟨_, rfl | ⟨first, rfl, sub⟩, h⟩
          · exact absurd h none
          · exact ⟨first, sub, h⟩
        · rintro ⟨first, sub, h⟩
          exact ⟨b :: first, .inr ⟨first, rfl, sub⟩, h⟩
      rw [skip (Nat.not_lt_zero _)]
      cases b with
      | opening =>
          rw [depth, ih]
          simp [Nat.add_right_comm, ← Nat.add_assoc]
      | closing =>
          cases n with
          | zero => exact iff_of_true rfl ⟨[], List.nil_prefix, by decide⟩
          | succ n =>
              rw [depth, ih]
              simp [Nat.add_right_comm]

/-- What is open afterwards is what was open before and what has been opened, less what has been
closed. -/
theorem count_of_depth {bs : List Bracket} {n m : Nat} (h : depth bs n = some m) :
    m + bs.count .closing = n + bs.count .opening := by
  induction bs generalizing n with
  | nil =>
      cases h
      rfl
  | cons b bs ih =>
      cases b with
      | opening =>
          have := ih h
          simp
          omega
      | closing =>
          cases n with
          | zero => cases h
          | succ n =>
              have := ih h
              simp
              omega

theorem overcloses_iff (bs : List Bracket) : Overcloses bs ↔ depth bs 0 = none := by
  rw [depth_eq_none_iff]
  simp [Overcloses]

theorem Overcloses.append {xs : List Bracket} (h : Overcloses xs) (ys : List Bracket) :
    Overcloses (xs ++ ys) := by
  obtain ⟨first, sub, more⟩ := h
  exact ⟨first, sub.trans (List.prefix_append xs ys), more⟩

theorem overcloses_append_iff {ys : List Bracket} (h : ¬ Overcloses ys) (xs : List Bracket) :
    Overcloses (xs ++ ys) ↔ Overcloses xs := by
  refine ⟨fun both => ?_, fun first => first.append ys⟩
  rw [overcloses_iff] at h both ⊢
  obtain ⟨m, hm⟩ := Option.ne_none_iff_exists'.mp h
  rw [depth_append] at both
  rcases hx : depth xs 0 with _ | n
  · rfl
  · -- what is open before the others does them no harm
    have more := depth_add hm n
    rw [Nat.zero_add] at more
    rw [hx, Option.bind_some, more] at both
    cases both

/-- Without an excess of closing brackets, so many are left open as there are more opening ones. -/
theorem depth_eq_some_iff {bs : List Bracket} {m : Nat} : depth bs 0 = some m ↔
    ¬ Overcloses bs ∧ bs.count .opening = bs.count .closing + m := by
  rw [overcloses_iff]
  constructor
  · intro h
    have count := count_of_depth h
    exact ⟨by simp [h], by omega⟩
  · rintro ⟨some, count⟩
    obtain ⟨k, hk⟩ := Option.ne_none_iff_exists'.mp some
    have := count_of_depth hk
    rw [hk, Option.some.injEq]
    omega

/-! ### Line by line -/

/-- The brackets of some lines, one after the other. -/
def lineBrackets (lines : List (List Char)) : List Bracket := lines.flatMap brackets

@[simp] theorem lineBrackets_nil : lineBrackets [] = [] := rfl

@[simp] theorem lineBrackets_cons (line : List Char) (lines : List (List Char)) :
    lineBrackets (line :: lines) = brackets line ++ lineBrackets lines := rfl

/-- If some closing bracket among the first lines closes nothing, one among all lines does. -/
theorem depth_lineBrackets_of_take {lines : List (List Char)} {i n : Nat}
    (h : depth (lineBrackets (lines.take i)) n = none) : depth (lineBrackets lines) n = none := by
  have split : lineBrackets lines = lineBrackets (lines.take i) ++ lineBrackets (lines.drop i) := by
    unfold lineBrackets
    rw [← List.flatMap_append, List.take_append_drop]
  rw [split, depth_append, h]
  rfl

variable {α : Type}

/-- What is told of lines when so many have been passed, and so many brackets are open. -/
def Verdict (lines : List (List Char)) (passed opened : Nat) : Except Problem α → Prop
  | .ok _ => depth (lineBrackets lines) opened = some 0
  | .error (.unclosed k) => depth (lineBrackets lines) opened = some k ∧ k ≠ 0
  | .error (.unbalanced n) => ∃ i, n = passed + i ∧
      (∀ j < i, depth (lineBrackets (lines.take j)) opened ≠ none) ∧
      depth (lineBrackets (lines.take i)) opened = none

/-- A line whose brackets can be matched hands on what is told of the others. -/
theorem Verdict.cons {line : List Char} {lines : List (List Char)} {passed opened left : Nat}
    {r : Except Problem α} (first : depth (brackets line) opened = some left)
    (h : Verdict lines (passed + 1) left r) : Verdict (line :: lines) passed opened r := by
  have onward (others : List (List Char)) :
      depth (lineBrackets (line :: others)) opened = depth (lineBrackets others) left := by
    rw [lineBrackets_cons, depth_append, first, Option.bind_some]
  match r, h with
  | .ok _, h => exact (onward lines).trans h
  | .error (.unclosed k), ⟨h, any⟩ => exact ⟨(onward lines).trans h, any⟩
  | .error (.unbalanced n), ⟨i, number, before, here⟩ =>
      refine ⟨i + 1, by omega, fun j hj => ?_, (onward _).trans here⟩
      cases j with
      | zero => exact Option.some_ne_none opened
      | succ j =>
          rw [List.take_succ_cons, onward]
          exact before j (by omega)

theorem Verdict.map {β : Type} {lines : List (List Char)} {passed opened : Nat}
    {r : Except Problem α} (h : Verdict lines passed opened r) (f : α → β) :
    Verdict lines passed opened (r.map f) := by
  match r, h with
  | .ok _, h => exact h
  | .error (.unclosed _), h => exact h
  | .error (.unbalanced _), h => exact h

/-- **What the walk over the lines tells of them.** -/
theorem verdict_place (s : State) (lines : List (List Char)) :
    Verdict lines s.passed s.stack.length (place s lines) := by
  induction lines generalizing s with
  | nil =>
      rw [place]
      split
      · next h => exact congrArg (fun stack => some (List.length stack)) h
      · next h => exact ⟨rfl, mt List.length_eq_zero_iff.mp h⟩
  | cons line rest ih =>
      have same := brackets_trim line
      rw [place]
      rcases ht : trim line with _ | ⟨c, cs⟩
      · -- a blank line has no brackets
        rw [ht] at same
        exact Verdict.cons (by rw [← same]; rfl) (ih _)
      · rw [ht] at same
        dsimp only
        rcases placeLine_eq s (c :: cs) with ⟨hp, hd⟩ | ⟨placed, s', hp, passed, hd⟩
        · rw [hp]
          refine ⟨1, rfl, fun j hj => ?_, ?_⟩
          · obtain rfl : j = 0 := by omega
            exact Option.some_ne_none _
          · rw [List.take_succ_cons, List.take_zero, lineBrackets_cons, lineBrackets_nil,
              List.append_nil, ← same]
            exact hd
        · have others := (ih s').map (placed :: ·)
          rw [passed] at others
          rw [same] at hd
          have whole := Verdict.cons hd others
          rw [hp]
          dsimp only [bind, Except.bind]
          cases hr : place s' rest with
          | ok others =>
              rw [hr] at whole
              exact whole
          | error problem =>
              rw [hr] at whole
              exact whole

/-! ### Sources -/

/-- The closing brackets exceed the opening ones on this line, counted from one, and on none before
it: this is the least number of lines whose brackets do so. -/
structure ExceedsFirstOn (lines : List (List Char)) (n : Nat) : Prop where
  before : ∀ j < n, ¬ Overcloses (lineBrackets (lines.take j))
  here : Overcloses (lineBrackets (lines.take n))

theorem ExceedsFirstOn.overcloses {lines : List (List Char)} {n : Nat}
    (h : ExceedsFirstOn lines n) : Overcloses (lineBrackets lines) :=
  (overcloses_iff _).mpr (depth_lineBrackets_of_take ((overcloses_iff _).mp h.here))

theorem ExceedsFirstOn.unique {lines : List (List Char)} {n m : Nat} (hn : ExceedsFirstOn lines n)
    (hm : ExceedsFirstOn lines m) : n = m := by
  rcases Nat.lt_trichotomy n m with less | same | more
  · exact absurd hn.here (hm.before n less)
  · exact same
  · exact absurd hm.here (hn.before m more)

/-- What is told of all lines of a source, by counting. -/
theorem verdict_iff {lines : List (List Char)} {r : Except Problem α} : Verdict lines 0 0 r ↔
    match r with
    | .ok _ => ¬ Overcloses (lineBrackets lines) ∧
        (lineBrackets lines).count .opening = (lineBrackets lines).count .closing
    | .error (.unclosed k) => (¬ Overcloses (lineBrackets lines) ∧
        (lineBrackets lines).count .opening = (lineBrackets lines).count .closing + k) ∧ k ≠ 0
    | .error (.unbalanced n) => ExceedsFirstOn lines n := by
  match r with
  | .ok _ => exact depth_eq_some_iff
  | .error (.unclosed k) => exact and_congr_left' depth_eq_some_iff
  | .error (.unbalanced n) =>
      constructor
      · rintro ⟨i, number, before, here⟩
        obtain rfl : n = i := by omega
        exact ⟨fun j hj => mt (overcloses_iff _).mp (before j hj), (overcloses_iff _).mpr here⟩
      · intro h
        exact ⟨n, (Nat.zero_add n).symm, fun j hj => mt (overcloses_iff _).mpr (h.before j hj),
          (overcloses_iff _).mp h.here⟩

theorem verdict_format (source : String) :
    Verdict (lines source.toList) 0 0 (format source) := by
  have verdict := verdict_place {} (lines source.toList)
  have whole := (verdict.map fun placed => placed.flatMap Placed.render).map String.ofList
  unfold format formatChars
  cases hp : place {} (lines source.toList) with
  | ok placed =>
      rw [hp] at whole
      exact whole
  | error problem =>
      rw [hp] at whole
      exact whole

/-- **What the layout tells of a source.**

It is laid out just when, of its brackets in order, there are never more closing than opening ones,
and as many of both in all.  The problem is the first line on which closing brackets exceed opening
ones, counted from one with the blank lines, or else how many more opening ones there are. -/
theorem format_verdict (source : String) :
    ((∃ text, format source = .ok text) ↔ ¬ Overcloses (lineBrackets (lines source.toList)) ∧
      (lineBrackets (lines source.toList)).count .closing =
        (lineBrackets (lines source.toList)).count .opening) ∧
    (∀ n, format source = .error (.unbalanced n) ↔ ExceedsFirstOn (lines source.toList) n) ∧
    (∀ k, format source = .error (.unclosed k) ↔
      ¬ Overcloses (lineBrackets (lines source.toList)) ∧ 0 < k ∧
        (lineBrackets (lines source.toList)).count .opening =
          (lineBrackets (lines source.toList)).count .closing + k) ∧
    (∀ n, (Problem.unbalanced n).message = "unbalanced closing bracket on line " ++ n.repr) ∧
    ∀ k, (Problem.unclosed k).message = k.repr ++ " unclosed bracket(s) at end of input" := by
  have verdict := verdict_iff.mp (verdict_format source)
  generalize format source = r at verdict ⊢
  generalize lines source.toList = lines at verdict ⊢
  -- one of the three outcomes is there, and its condition excludes those of the others
  match r, verdict with
  | .ok text, verdict =>
      refine ⟨iff_of_true ⟨text, rfl⟩ ⟨verdict.1, verdict.2.symm⟩, fun n => ?_, fun k => ?_,
        fun n => rfl, fun k => rfl⟩
      · exact iff_of_false nofun fun h => verdict.1 h.overcloses
      · exact iff_of_false nofun fun h => by omega
  | .error (.unbalanced m), verdict =>
      have excess := verdict.overcloses
      refine ⟨iff_of_false nofun fun h => h.1 excess, fun n => ⟨?_, fun h => ?_⟩, fun k => ?_,
        fun n => rfl, fun k => rfl⟩
      · rintro ⟨⟩
        exact verdict
      · rw [verdict.unique h]
      · exact iff_of_false nofun fun h => h.1 excess
  | .error (.unclosed m), verdict =>
      obtain ⟨⟨within, count⟩, some⟩ := verdict
      refine ⟨iff_of_false nofun fun h => by omega, fun n => ?_, fun k => ⟨?_, fun h => ?_⟩,
        fun n => rfl, fun k => rfl⟩
      · exact iff_of_false nofun fun h => within h.overcloses
      · rintro ⟨⟩
        exact ⟨within, Nat.pos_of_ne_zero some, count⟩
      · obtain rfl : m = k := by omega
        rfl

/-- Shapes do not matter, and blank lines count. -/
example : format "f(\n\n]\n)" = .error (.unbalanced 4) := rfl

end Subgraph.Layout
