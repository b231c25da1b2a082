import Subgraph.Proofs.Placement

/-!
# Relayout — a laid out text stays as it is

Laying out drops blank lines, so the lines of the result have other numbers than those of the
source.  The numbers do not matter: a level depends on which brackets were opened on the same line,
and that stays so when the lines are numbered anew.

* `levels_renumbered`, `matchBrackets_renumbered`: two stacks with the same brackets under different
  numbers have the same level, and go on to such stacks.
* `Places.again`: a walk over the lines of the result places what the first one has placed.
* `format_idempotent`: what is laid out once is not changed by another layout.
-/

namespace Subgraph.Layout

open Text

/-! ### Lines under other numbers -/

/-- Pairs of numbers of one line each: equal on the one side just when equal on the other. -/
def AreLines (pairs : List (Nat × Nat)) : Prop :=
  ∀ a ∈ pairs, ∀ b ∈ pairs, a.1 = b.1 ↔ a.2 = b.2

theorem levels_renumbered {pairs : List (Nat × Nat)} (h : AreLines pairs) :
    levels (pairs.map Prod.fst) = levels (pairs.map Prod.snd) := by
  induction pairs with
  | nil => rfl
  | cons a pairs ih =>
      have ih := ih fun x hx y hy => h x (List.mem_cons_of_mem _ hx) y (List.mem_cons_of_mem _ hy)
      cases pairs with
      | nil => rfl
      | cons b pairs =>
          have same := h a List.mem_cons_self b (List.mem_cons_of_mem _ List.mem_cons_self)
          have step (f : Nat × Nat → Nat) : levels ((a :: b :: pairs).map f) =
              if f a = f b then levels ((b :: pairs).map f)
              else levels ((b :: pairs).map f) + 1 := rfl
          rw [step, step, ih]
          simp only [same]

/-- **Brackets are matched alike under other numbers.**  What is on the stacks afterwards was there
before, or belongs to the line at hand. -/
theorem matchBrackets_renumbered (n n' : Nat) {bs : List Bracket} (pairs : List (Nat × Nat))
    {stack : List Nat} (h : matchBrackets n bs (pairs.map Prod.fst) = some stack) :
    ∃ left : List (Nat × Nat), stack = left.map Prod.fst ∧
      matchBrackets n' bs (pairs.map Prod.snd) = some (left.map Prod.snd) ∧
      ∀ a ∈ left, a ∈ pairs ∨ a = (n, n') := by
  induction bs generalizing pairs with
  | nil =>
      cases h
      exact ⟨pairs, rfl, rfl, fun a ha => .inl ha⟩
  | cons b bs ih =>
      cases b with
      | opening =>
          obtain ⟨left, hs, hm, origin⟩ := ih ((n, n') :: pairs) h
          refine ⟨left, hs, hm, fun a ha => ?_⟩
          rcases origin a ha with old | new
          · exact (List.mem_cons.mp old).symm
          · exact .inr new
      | closing =>
          cases pairs with
          | nil => cases h
          | cons a pairs =>
              obtain ⟨left, hs, hm, origin⟩ := ih pairs h
              exact ⟨left, hs, hm, fun x hx => (origin x hx).imp_left (List.mem_cons_of_mem _)⟩

/-- Two walks stand at the same place in their lines, under different numbers. -/
structure Renumbered (pairs : List (Nat × Nat)) (s s' : State) : Prop where
  stack : s.stack = pairs.map Prod.fst
  stack' : s'.stack = pairs.map Prod.snd
  lines : AreLines pairs
  /-- The lines on the stacks have been passed. -/
  passed : ∀ a ∈ pairs, a.1 < s.passed ∧ a.2 < s'.passed
  started : s.started = s'.started

namespace Renumbered

variable {pairs : List (Nat × Nat)} {s s' : State}

/-- A line more on either side changes nothing. -/
theorem skip (h : Renumbered pairs s s') (gap gap' : Bool) (k k' : Nat) :
    Renumbered pairs { s with passed := s.passed + k, gap := gap }
      { s' with passed := s'.passed + k', gap := gap' } :=
  ⟨h.stack, h.stack', h.lines, fun a ha => ⟨Nat.lt_add_right k (h.passed a ha).1,
    Nat.lt_add_right k' (h.passed a ha).2⟩, h.started⟩

/-- The line at hand is none of those on the stacks. -/
theorem areLines_of (h : Renumbered pairs s s') {left : List (Nat × Nat)}
    (origin : ∀ a ∈ left, a ∈ pairs ∨ a = (s.passed, s'.passed)) : AreLines left := by
  intro a ha b hb
  rcases origin a ha with old | rfl <;> rcases origin b hb with old' | rfl
  · exact h.lines a old b old'
  · have := h.passed a old
    dsimp only
    omega
  · have := h.passed b old'
    dsimp only
    omega
  · exact iff_of_true rfl rfl

/-- **A line is placed alike under another number**, at the same level, and the walks go on at the
same place. -/
theorem step (h : Renumbered pairs s s') {text : List Char} {stack : List Nat}
    (all : matchBrackets s.passed (brackets text) s.stack = some stack) :
    ∃ stack' left, matchBrackets s'.passed (brackets text) s'.stack = some stack' ∧
      levels (s.stack.drop (leadingClosers text)) =
        levels (s'.stack.drop (leadingClosers text)) ∧
      Renumbered left ⟨s.passed + 1, stack, true, false⟩ ⟨s'.passed + 1, stack', true, false⟩ := by
  rw [h.stack] at all
  obtain ⟨left, rfl, all', origin⟩ := matchBrackets_renumbered s.passed s'.passed pairs all
  rw [← h.stack'] at all'
  refine ⟨_, left, all', ?_, rfl, rfl, h.areLines_of origin, fun a ha => ?_, rfl⟩
  · rw [h.stack, h.stack', ← List.map_drop, ← List.map_drop]
    exact levels_renumbered fun a ha b hb =>
      h.lines a (List.mem_of_mem_drop ha) b (List.mem_of_mem_drop hb)
  · rcases origin a ha with old | rfl
    · have := h.passed a old
      dsimp only
      omega
    · exact ⟨Nat.lt_succ_self _, Nat.lt_succ_self _⟩

end Renumbered

/-! ### The second layout -/

variable {s s' : State} {lines : List (List Char)} {ps : List Placed}

/-- **A walk over the lines of the result places what the first walk has placed.** -/
theorem Places.again (h : Places s lines ps) (sound : ∀ p ∈ ps, p.IsSound)
    (pairs : List (Nat × Nat)) (alike : Renumbered pairs s s') (fresh : s'.gap = false)
    (gap : s.gap = true → s.started = true) : Places s' (resultLines ps) ps := by
  induction h generalizing s' pairs with
  | done closed =>
      refine .done ?_
      have empty := alike.stack.symm.trans closed
      rw [alike.stack', List.map_eq_nil_iff.mp empty]
      rfl
  | @blank s line rest ps empty _ ih =>
      exact ih sound pairs (alike.skip s.started s'.gap 1 0) fresh id
  | @line s line text rest ps stack content any all _ ih =>
      obtain ⟨first, others⟩ := List.forall_mem_cons.mp sound
      -- a gap is a line of its own, after which the walks stand at the same line again
      have walk {n : Nat} (alike : Renumbered pairs s ⟨n, s'.stack, s'.started, s.gap⟩) :
          Places ⟨n, s'.stack, s'.started, s.gap⟩
            ((List.replicate (2 * levels (s.stack.drop (leadingClosers text))) ' ' ++ text) ::
              resultLines ps)
            (⟨s.gap, levels (s.stack.drop (leadingClosers text)), text⟩ :: ps) := by
        obtain ⟨other, left, all', level, onward⟩ := alike.step all
        rw [level] at first ⊢
        exact .line first.trim_line any all' (ih others left onward rfl fun _ => rfl)
      have here : Renumbered pairs s ⟨s'.passed, s'.stack, s'.started, s.gap⟩ :=
        ⟨alike.stack, alike.stack', alike.lines, alike.passed, alike.started⟩
      cases hg : s.gap with
      | false =>
          have go := walk here
          have same : (⟨s'.passed, s'.stack, s'.started, false⟩ : State) = s' := by rw [← fresh]
          rw [hg, same] at go
          exact go
      | true =>
          have go := walk (here.skip s.gap s.gap 0 1)
          have started := alike.started.symm.trans (gap hg)
          refine .blank (rfl : trim [] = []) ?_
          rw [started]
          rw [hg, started] at go
          exact go

/-- **What is laid out stays as it is.**  Another layout succeeds, and changes nothing. -/
theorem format_idempotent {source text : String} (h : format source = .ok text) :
    format text = .ok text := by
  obtain ⟨ps, walk, text_eq⟩ := format_eq_ok_iff.mp h
  have sound := walk.isSound newline_notMem_of_mem_lines
  refine format_eq_ok_iff.mpr ⟨ps, ?_, text_eq⟩
  rw [text_eq, lines_render sound]
  exact walk.again sound [] ⟨rfl, rfl, nofun, nofun, rfl⟩ rfl nofun

/-- A source with blank lines, a bracket in a comment and one in quotes, and a line that opens two
brackets, of which the next one closes only one. -/
theorem format_idempotent_nested :
    format "\n  f([ // \x7b\n\n\n'\x7d', g(\r\n1)\n], 2)" =
        .ok "f([ // \x7b\n\n  '\x7d', g(\n    1)\n  ], 2)\n" ∧
      format "f([ // \x7b\n\n  '\x7d', g(\n    1)\n  ], 2)\n" =
        .ok "f([ // \x7b\n\n  '\x7d', g(\n    1)\n  ], 2)\n" := by
  have once : format "\n  f([ // \x7b\n\n\n'\x7d', g(\r\n1)\n], 2)" =
      .ok "f([ // \x7b\n\n  '\x7d', g(\n    1)\n  ], 2)\n" := rfl
  exact ⟨once, format_idempotent once⟩

end Subgraph.Layout
