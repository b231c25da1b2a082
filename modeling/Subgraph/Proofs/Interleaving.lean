import Mathlib.Data.List.Forall2
import Subgraph.Proofs.Runs
import Subgraph.Together

/-!
# Interleaving — programs side by side

Several programs may work on one host at the same time.  Each of them makes its requests one after
the other; which one makes the next request is open, and any order may happen.

* `Program.step`: the next request of a program.
* `Interleaves`: some requests of several programs, in any order.
* `Joined`: the programs are awaited together, and the first error is the end of it, wherever the
  others stand.
* `Interleaves.invariant`: what each request keeps up holds whatever the order.
* `Interleaves.shares`: all requests are those of the programs, each going on by itself.
* `Proceeds`: programs that are awaited together come to some point, or to the first failure.
* `runs_together_iff`: the runs of programs that are awaited together, at all paces, are all orders
  of their requests up to the first failure.
-/

namespace Subgraph

open Subgraph.Action

variable {σ α β : Type} {host : Host σ} {s s' s₁ s₂ : σ} {t t₁ t₂ : List Event} {e : Event}
variable {p p' : Program α} {ps ps' ps₁ ps₂ : List (Program α)}

namespace Program

/-- The next request of a program: the program that is left, the state, and the request.  A program
that is done has none. -/
def step (host : Host σ) : Program α → σ → Option (Program α × σ × Event)
  | .done _, _ => none
  | .read path next, s => some (next (host.read s path), s, .read path)
  | .find path next, s => some (next (host.isPresent s path), s, .find path)
  | .ensureDir path next, s =>
    let (s', answer) := answered s (host.ensureDir s path)
    some (next answer, s', .dir path answer.toBool)
  | .write path text next, s =>
    let (s', answer) := answered s (host.write s path text)
    some (next answer, s', .file path text answer.toBool)
  | .tell notice next, s => some (next, s, .told notice)

end Program

/-- Some requests of programs, in any order: the programs and the state before and after, and the
requests. -/
inductive Interleaves (host : Host σ) :
    List (Program α) → σ → List (Program α) → σ → List Event → Prop
  | refl {ps : List (Program α)} {s : σ} : Interleaves host ps s ps s []
  | step {before after ps : List (Program α)} {p p' : Program α} {s s₁ s' : σ} {e : Event}
      {t : List Event} (first : p.step host s = some (p', s₁, e))
      (rest : Interleaves host (before ++ p' :: after) s₁ ps s' t) :
      Interleaves host (before ++ p :: after) s ps s' (e :: t)

/-- What comes of programs that are awaited together: all values in the order of the programs, or
the error of one of them. -/
inductive Joined : List (Program (Outcome α)) → Outcome (List α) → Prop
  | all (values : List α) : Joined (values.map fun v => .done (.ok v)) (.ok values)
  | failed {ps : List (Program (Outcome α))} {e : Error} (mem : .done (.error e) ∈ ps) :
      Joined ps (.error e)

namespace Interleaves

theorem trans (h₁ : Interleaves host ps s ps₁ s₁ t₁) (h₂ : Interleaves host ps₁ s₁ ps₂ s₂ t₂) :
    Interleaves host ps s ps₂ s₂ (t₁ ++ t₂) := by
  induction h₁ with
  | refl => exact h₂
  | step first rest ih => exact .step first (ih h₂)

/-- One of the programs makes its next request. -/
theorem next (before after : List (Program α)) (first : p.step host s = some (p', s', e)) :
    Interleaves host (before ++ p :: after) s (before ++ p' :: after) s' [e] :=
  .step first .refl

/-- **What each request keeps up holds whatever the order.** -/
theorem invariant {I : List (Program α) → σ → List Event → Prop}
    (keeps : ∀ {before after p p' s s' e t}, I (before ++ p :: after) s t →
      p.step host s = some (p', s', e) → I (before ++ p' :: after) s' (t ++ [e]))
    (h : Interleaves host ps s ps' s' t) (start : I ps s []) : I ps' s' t := by
  suffices after : ∀ t₀, I ps s t₀ → I ps' s' (t₀ ++ t) from after [] start
  clear start
  induction h with
  | refl =>
      intro t₀ start
      rwa [List.append_nil]
  | @step _ _ _ _ _ _ _ _ e t first rest ih =>
      intro t₀ start
      rw [List.append_cons]
      exact ih _ (keeps start first)

end Interleaves

/-! ### The requests of each -/

/-- Two lists that correspond are split alike. -/
theorem forall₂_split {α β : Type} {R : α → β → Prop} {xs : List α} {before after : List β} {y : β}
    (h : List.Forall₂ R xs (before ++ y :: after)) : ∃ xs₁ x xs₂, xs = xs₁ ++ x :: xs₂ ∧
      List.Forall₂ R xs₁ before ∧ R x y ∧ List.Forall₂ R xs₂ after := by
  have first := List.forall₂_take_append xs before (y :: after) h
  have rest := List.forall₂_drop_append xs before (y :: after) h
  obtain ⟨x, xs₂, hx, hxs, drop⟩ := List.forall₂_cons_right_iff.mp rest
  refine ⟨xs.take before.length, x, xs₂, ?_, first, hx, hxs⟩
  rw [← drop, List.take_append_drop]

section

variable {before after ps ps' : List (Program (Outcome α))} {p p' : Program (Outcome α)}

/-- None of some programs has failed. -/
def Unfailed (ps : List (Program (Outcome α))) : Prop := ∀ e, .done (.error e) ∉ ps

/-- What comes of some requests of programs that are awaited together: no program has failed, or one
has with the last request. -/
inductive Proceeds (host : Host σ) (ps : List (Program (Outcome α))) (s : σ) :
    Outcome (List (Program (Outcome α))) → σ → List Event → Prop
  | on {ps' : List (Program (Outcome α))} {s' : σ} {t : List Event}
      (steps : Interleaves host ps s ps' s' t) (unfailed : Unfailed ps') :
      Proceeds host ps s (.ok ps') s' t
  | failed {before after : List (Program (Outcome α))} {p : Program (Outcome α)} {cause : Error}
      {s₁ s' : σ} {t : List Event} {e : Event}
      (steps : Interleaves host ps s (before ++ p :: after) s₁ t)
      (unfailed : Unfailed (before ++ p :: after))
      (last : p.step host s₁ = some (.done (.error cause), s', e)) :
      Proceeds host ps s (.error cause) s' (t ++ [e])

theorem Unfailed.replace (h : Unfailed (before ++ p :: after)) (hp : ∀ e, p' ≠ .done (.error e)) :
    Unfailed (before ++ p' :: after) := by
  intro e mem
  rcases List.mem_append.mp mem with mem | mem
  · exact h e (List.mem_append_left _ mem)
  · rcases List.mem_cons.mp mem with rfl | mem
    · exact hp e rfl
    · exact h e (List.mem_append_right _ (List.mem_cons_of_mem _ mem))

theorem Unfailed.ne (h : Unfailed (before ++ p :: after)) (e : Error) : p ≠ .done (.error e) := by
  rintro rfl
  exact h e (List.mem_append_right _ List.mem_cons_self)

/-- A program that has failed stays so. -/
theorem Interleaves.unfailed (h : Interleaves host ps s ps' s' t) (h' : Unfailed ps') :
    Unfailed ps := by
  induction h with
  | refl => exact h'
  | @step before after ps p p' s s₁ s' event t first rest ih =>
      refine (ih h').replace fun e => ?_
      rintro rfl
      cases first

theorem Interleaves.proceeds {r : Outcome (List (Program (Outcome α)))}
    (h₁ : Interleaves host ps s ps' s₁ t₁) (h₂ : Proceeds host ps' s₁ r s' t₂) :
    Proceeds host ps s r s' (t₁ ++ t₂) := by
  cases h₂ with
  | on steps unfailed => exact .on (h₁.trans steps) unfailed
  | failed steps unfailed last =>
      rw [← List.append_assoc]
      exact .failed (h₁.trans steps) unfailed last

/-- **Whether they succeed or one fails**, the programs have made some requests, in some order. -/
theorem Proceeds.joined {r : Outcome (List α)}
    (h : Proceeds host ps s (r.map fun vs => vs.map fun v => .done (.ok v)) s' t) :
    ∃ ps', Interleaves host ps s ps' s' t ∧ Joined ps' r := by
  rcases r with cause | vs
  · cases h with
    | failed steps unfailed last =>
        exact ⟨_, steps.trans (.next _ _ last),
          .failed (List.mem_append_right _ List.mem_cons_self)⟩
  · cases h with
    | on steps unfailed => exact ⟨_, steps, .all vs⟩

/-! ### Rounds -/

namespace Program

theorem proceed_zero (h : ∀ e, p ≠ .done (.error e)) : p.proceed 0 = .done (.ok p) := by
  cases p with
  | done value =>
      cases value with
      | error e => exact absurd rfl (h e)
      | ok v => rfl
  | _ => rfl

theorem proceed_failed (n : Nat) (e : Error) :
    (.done (.error e) : Program (Outcome α)).proceed n = .done (.error e) := by
  cases n <;> rfl

/-- To go on is to make the next request first. -/
theorem run_proceed_succ (n : Nat) (first : p.step host s = some (p', s', e)) :
    (p.proceed (n + 1)).run host s = ((p'.proceed n).run host s').after e := by
  cases p with
  | done => cases first
  | _ =>
      cases first
      rfl

/-- A program that runs to its end has made so many requests. -/
theorem exists_proceed (host : Host σ) (p : Program (Outcome α)) (s : σ) :
    ∃ n, (p.proceed n).run host s =
      { p.run host s with value := (p.run host s).value.map fun v => .done (.ok v) } := by
  induction p generalizing s with
  | done value => exact ⟨0, by cases value <;> rfl⟩
  | read path next ih | find path next ih | ensureDir path next ih =>
      obtain ⟨n, h⟩ := ih _ _
      exact ⟨n + 1, congrArg (Run.after _) h⟩
  | write path text next ih =>
      obtain ⟨n, h⟩ := ih _ _
      exact ⟨n + 1, congrArg (Run.after _) h⟩
  | tell notice next ih =>
      obtain ⟨n, h⟩ := ih s
      exact ⟨n + 1, congrArg (Run.after _) h⟩

end Program

/-- One of the programs goes on, while the others wait. -/
theorem proceeds_proceed (host : Host σ) (n : Nat) (s : σ) (h : Unfailed (before ++ p :: after)) :
    Proceeds host (before ++ p :: after) s
      (((p.proceed n).run host s).value.map fun p' => before ++ p' :: after)
      ((p.proceed n).run host s).state ((p.proceed n).run host s).trace := by
  induction n generalizing p s with
  | zero =>
      rw [Program.proceed_zero h.ne]
      exact .on .refl h
  | succ n ih =>
      rcases first : p.step host s with _ | ⟨p', s₁, event⟩
      · cases p with
        | done value =>
            cases value with
            | error e => exact absurd rfl (h.ne e)
            | ok v => exact .on .refl h
        | _ => cases first
      · rw [Program.run_proceed_succ n first]
        by_cases failed : ∃ e, p' = .done (.error e)
        · obtain ⟨e, rfl⟩ := failed
          rw [Program.proceed_failed]
          exact .failed .refl h first
        · exact (Interleaves.next before after first).proceeds
            (ih s₁ (h.replace (not_exists.mp failed)))

theorem proceeds_of_ok {n : Nat} {r : Outcome (List (Program (Outcome α)))}
    (h : Unfailed (before ++ p :: ps)) (one : (p.proceed n).run host s = ⟨.ok p', s₁, t₁⟩)
    (rest : Unfailed (before ++ [p'] ++ ps) → Proceeds host (before ++ [p'] ++ ps) s₁ r s' t₂) :
    Proceeds host (before ++ p :: ps) s r s' (t₁ ++ t₂) := by
  have first := proceeds_proceed host n s h
  rw [one] at first
  rw [← List.append_cons] at rest
  cases first with
  | on steps unfailed => exact steps.proceeds (rest unfailed)

theorem proceeds_of_error {n : Nat} {cause : Error} (h : Unfailed (before ++ p :: ps))
    (one : (p.proceed n).run host s = ⟨.error cause, s', t⟩) :
    Proceeds host (before ++ p :: ps) s (.error cause) s' t := by
  have first := proceeds_proceed host n s h
  rwa [one] at first

theorem proceeds_round {ns : List Nat} {r : Outcome (List (Program (Outcome α)))}
    (h : Unfailed (before ++ ps)) (run : Runs host (round ns ps) s r s' t) :
    Proceeds host (before ++ ps) s (r.map (before ++ ·)) s' t := by
  induction ns generalizing before ps s r t with
  | nil =>
      obtain ⟨rfl, rfl, rfl⟩ := runs_pure.mp run
      exact .on .refl h
  | cons n ns ih =>
      rcases ps with _ | ⟨p, ps⟩
      · obtain ⟨rfl, rfl, rfl⟩ := runs_pure.mp run
        exact .on .refl h
      rcases runs_bind.mp run with ⟨p', s₁, t₁, t₂, one, rest, rfl⟩ | ⟨e, rfl, one⟩
      · rw [bind_pure_comp] at rest
        obtain ⟨r, rfl, others⟩ := exists_of_runs_map rest
        refine proceeds_of_ok h one fun unfailed => ?_
        have next := ih unfailed others
        rcases r with e | ps' <;> simpa [Except.map] using next
      · exact proceeds_of_error h one

/-- The last round, in which no program has to wait. -/
theorem proceeds_ends {r : Outcome (List α)} (h : Unfailed (before ++ ps))
    (run : Runs host (ps.mapM ExceptT.mk) s r s' t) :
    Proceeds host (before ++ ps) s (r.map fun vs => before ++ vs.map fun v => .done (.ok v)) s' t := by
  induction ps generalizing before s r t with
  | nil =>
      obtain ⟨rfl, rfl, rfl⟩ := runs_mapM_nil.mp run
      exact .on .refl h
  | cons p ps ih =>
      obtain ⟨n, ends⟩ := p.exists_proceed host s
      rw [List.mapM_cons] at run
      rcases runs_bind.mp run with ⟨v, s₁, t₁, t₂, one, rest, rfl⟩ | ⟨e, rfl, one⟩
      · rw [bind_pure_comp] at rest
        obtain ⟨r, rfl, others⟩ := exists_of_runs_map rest
        rw [show p.run host s = _ from one] at ends
        refine proceeds_of_ok h ends fun unfailed => ?_
        have next := ih unfailed others
        rcases r with e | vs <;> simpa [Except.map] using next
      · rw [show p.run host s = _ from one] at ends
        exact proceeds_of_error h ends

/-- **Programs that are awaited together** make requests in some order, whatever the pace, until all
have come to their ends or one has failed. -/
theorem proceeds_together {pace : Pace} {r : Outcome (List α)} (h : Unfailed ps)
    (run : Runs host (together pace ps) s r s' t) :
    Proceeds host ps s (r.map fun vs => vs.map fun v => .done (.ok v)) s' t := by
  induction pace generalizing ps s t with
  | nil => exact proceeds_ends (show Unfailed ([] ++ ps) from h) run
  | cons ns pace ih =>
      have all : Unfailed ([] ++ ps) := h
      rcases runs_bind.mp run with ⟨ps', s₁, t₁, t₂, first, rest, rfl⟩ | ⟨e, rfl, first⟩
      · cases proceeds_round all first with
        | on steps unfailed => exact steps.proceeds (ih unfailed rest)
      · exact proceeds_round all first

/-! ### Every order -/

/-- Programs that have come to their ends are awaited without any request. -/
theorem runs_together_done (vs : List α) :
    Runs host (together [] (vs.map fun v => .done (.ok v))) s (.ok vs) s [] := by
  unfold together
  induction vs with
  | nil => exact runs_mapM_nil.mpr ⟨rfl, rfl, rfl⟩
  | cons v vs ih => exact runs_mapM_cons.mpr (.inl ⟨v, s, [], [], rfl, rfl, .inl ⟨vs, rfl, ih⟩⟩)

/-- One of the programs makes its next request in a round, and no other makes any. -/
theorem runs_round_one {r : Outcome (Program (Outcome α))} (h : Unfailed (before ++ p :: after))
    (first : (p.proceed 1).run host s = ⟨r, s', t⟩) :
    Runs host (round (.replicate before.length 0 ++ [1]) (before ++ p :: after)) s
      (r.map fun p' => before ++ p' :: after) s' t := by
  induction before with
  | nil =>
      rcases r with e | p'
      · exact runs_bind.mpr (.inr ⟨e, rfl, first⟩)
      · exact runs_bind.mpr (.inl ⟨p', s', t, [], first, runs_pure.mpr ⟨rfl, rfl, rfl⟩, by simp⟩)
  | cons q before ih =>
      have waits : q.proceed 0 = .done (.ok q) :=
        Program.proceed_zero fun e => by rintro rfl; exact h e List.mem_cons_self
      have rest := ih fun e he => h e (List.mem_cons_of_mem _ he)
      refine runs_bind.mpr (.inl ⟨q, s, [], t, congrArg (Program.run host · s) waits, ?_, rfl⟩)
      rw [bind_pure_comp]
      rcases r with e | p'
      · exact runs_map.mpr (.inr ⟨e, rfl, rest⟩)
      · exact runs_map.mpr (.inl ⟨_, rfl, rest⟩)

/-- Any requests can come first, and then what follows them. -/
theorem exists_pace {pace : Pace} {r : Outcome (List α)} (h : Interleaves host ps s ps' s₁ t₁)
    (unfailed : Unfailed ps') (rest : Runs host (together pace ps') s₁ r s' t₂) :
    ∃ pace', Runs host (together pace' ps) s r s' (t₁ ++ t₂) := by
  induction h with
  | refl => exact ⟨pace, rest⟩
  | @step before after ps p p' s s₁ s' event t first steps ih =>
      obtain ⟨pace', next⟩ := ih unfailed rest
      have unfailed' := steps.unfailed unfailed
      have one : (p.proceed 1).run host s = ⟨.ok p', s₁, [event]⟩ := by
        rw [Program.run_proceed_succ 0 first, Program.proceed_zero unfailed'.ne]
        rfl
      have unfailed'' := (Interleaves.step first .refl).unfailed unfailed'
      exact ⟨_ :: pace',
        runs_bind.mpr (.inl ⟨_, s₁, [event], _, runs_round_one unfailed'' one, next, rfl⟩)⟩

/-- **The runs of programs that are awaited together**, at all paces, are all orders of their
requests, until all have come to their ends or one has failed. -/
theorem runs_together_iff {r : Outcome (List α)} (unfailed : Unfailed ps) :
    (∃ pace, Runs host (together pace ps) s r s' t) ↔
      Proceeds host ps s (r.map fun vs => vs.map fun v => .done (.ok v)) s' t := by
  constructor
  · rintro ⟨pace, run⟩
    exact proceeds_together unfailed run
  · intro h
    rcases r with cause | vs
    · cases h with
      | @failed before after p _ s₁ _ t event steps unfailed' last =>
          have one : (p.proceed 1).run host s₁ = ⟨.error cause, s', [event]⟩ :=
            Program.run_proceed_succ 0 last
          have last : Runs host (together [.replicate before.length 0 ++ [1]] (before ++ p :: after))
              s₁ (.error cause) s' [event] :=
            runs_bind.mpr (.inr ⟨cause, rfl, runs_round_one unfailed' one⟩)
          exact exists_pace steps unfailed' last
    · cases h with
      | on steps unfailed' =>
          have ends := exists_pace steps unfailed' (runs_together_done vs)
          rwa [List.append_nil] at ends

end

end Subgraph
