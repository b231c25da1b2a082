import Subgraph.Program

/-!
# Runs — what an action does on a host

`Runs host a s r s' t` says that the action `a`, begun in the state `s`, ends with the outcome `r`
in the state `s'`, and that `t` are the requests it made.  Each way to build an action has a lemma
that says which runs there are, so a run of a long action is taken apart part by part.

* `runs_bind`: a run of two actions is a run of both, or one of the first that fails.
* `runs_stage`: a run of a stage is a run of its work between what the stage tells.
* `runs_writeFile`: a file is written in one of three ways (`FileRun`).
* `Runs.state_eq`: a run that asks for no output leaves the state as it was.
* `Emits`: every request of every run of an action has some property.
-/

namespace Subgraph

variable {σ α β : Type}

/-- **A run that asks for no output leaves the state as it was.** -/
theorem Program.run_state_of_quiet (host : Host σ) (p : Program α) (s : σ)
    (h : ∀ e ∈ (p.run host s).trace, e.isOutput = false) : (p.run host s).state = s := by
  induction p generalizing s with
  | done value => rfl
  | read path next ih => exact ih _ s fun e he => h e (List.mem_cons_of_mem _ he)
  | find path next ih => exact ih _ s fun e he => h e (List.mem_cons_of_mem _ he)
  | ensureDir path next _ => exact absurd (h _ List.mem_cons_self) (by simp [Event.isOutput])
  | write path text next _ => exact absurd (h _ List.mem_cons_self) (by simp [Event.isOutput])
  | tell notice next ih => exact ih s fun e he => h e (List.mem_cons_of_mem _ he)

/-- The begin or the end of a stage. -/
def Progress.isMark : Progress → Bool
  | .begin _ | .succeed _ | .fail _ _ => true
  | .step _ _ | .warn _ => false

namespace Action

/-- From the state `s` the action ends with `r` in the state `s'`; `t` are its requests. -/
def Runs (host : Host σ) (a : Action α) (s : σ) (r : Outcome α) (s' : σ) (t : List Event) : Prop :=
  a.run.run host s = ⟨r, s', t⟩

variable {host : Host σ} {s s' s₁ : σ} {t t₁ : List Event}

/-- Every action has a run from every state. -/
theorem runs_self (host : Host σ) (a : Action α) (s : σ) :
    Runs host a s (a.run.run host s).value (a.run.run host s).state (a.run.run host s).trace := rfl

theorem Runs.run_eq {a : Action α} {r : Outcome α} (h : Runs host a s r s' t) :
    Program.run host a.run s = ⟨r, s', t⟩ := h

/-- A run without requests for output ends in the state in which it began. -/
theorem Runs.state_eq {a : Action α} {r : Outcome α} (h : Runs host a s r s' t)
    (quiet : ∀ e ∈ t, e.isOutput = false) : s' = s := by
  have key := Program.run_state_of_quiet host a.run s
  rw [h.run_eq] at key
  exact key quiet

/-! ### The parts of an action -/

theorem runs_pure {v : α} {r : Outcome α} :
    Runs host (pure v) s r s' t ↔ r = .ok v ∧ s' = s ∧ t = [] := by
  have run : (pure v : Action α).run.run host s = ⟨.ok v, s, []⟩ := rfl
  simp only [Runs, run, Run.mk.injEq, eq_comm]

theorem runs_throw {e : Error} {r : Outcome α} :
    Runs host (throw e) s r s' t ↔ r = .error e ∧ s' = s ∧ t = [] := by
  have run : (throw e : Action α).run.run host s = ⟨.error e, s, []⟩ := rfl
  simp only [Runs, run, Run.mk.injEq, eq_comm]

theorem runs_ofOutcome {o r : Outcome α} :
    Runs host (ofOutcome o) s r s' t ↔ r = o ∧ s' = s ∧ t = [] := by
  have run : (ofOutcome o : Action α).run.run host s = ⟨o, s, []⟩ := rfl
  simp only [Runs, run, Run.mk.injEq, eq_comm]

/-- A program that cannot fail runs as an action does. -/
theorem runs_lift {p : Program α} {r : Outcome α} :
    Runs host (liftM p) s r s' t ↔
      r = .ok (p.run host s).value ∧ s' = (p.run host s).state ∧ t = (p.run host s).trace := by
  have run : (liftM p : Action α).run.run host s =
      ⟨.ok (p.run host s).value, (p.run host s).state, (p.run host s).trace⟩ :=
    (Program.run_bind host p _ s).trans (congrArg (Run.mk _ _) (List.append_nil _))
  simp only [Runs, run, Run.mk.injEq, eq_comm]

theorem runs_notify {notice : Notice} {r : Outcome Unit} :
    Runs host (notify notice) s r s' t ↔ r = .ok () ∧ s' = s ∧ t = [.told notice] := runs_lift

theorem runs_readText {path : Path} {r : Outcome (Except FileFailure String)} :
    Runs host (liftM (Program.readText path)) s r s' t ↔
      r = .ok (host.read s path) ∧ s' = s ∧ t = [.read path] := runs_lift

theorem Runs.bind_ok {a : Action α} {f : α → Action β} {v : α}
    (h : Runs host a s (.ok v) s₁ t₁) :
    (a >>= f).run.run host s = ⟨((f v).run.run host s₁).value, ((f v).run.run host s₁).state,
      t₁ ++ ((f v).run.run host s₁).trace⟩ := by
  rw [ExceptT.run_bind]
  refine (Program.run_bind host a.run _ s).trans ?_
  rw [h.run_eq]

theorem Runs.bind_error {a : Action α} {f : α → Action β} {e : Error}
    (h : Runs host a s (.error e) s₁ t₁) : Runs host (a >>= f) s (.error e) s₁ t₁ := by
  unfold Runs
  rw [ExceptT.run_bind]
  refine (Program.run_bind host a.run _ s).trans ?_
  rw [h.run_eq]
  exact congrArg (Run.mk _ _) (List.append_nil t₁)

/-- **A run of two actions** is a run of both, or one of the first that fails. -/
theorem runs_bind {a : Action α} {f : α → Action β} {r : Outcome β} :
    Runs host (a >>= f) s r s' t ↔
      (∃ v s₁ t₁ t₂, Runs host a s (.ok v) s₁ t₁ ∧ Runs host (f v) s₁ r s' t₂ ∧ t = t₁ ++ t₂) ∨
      ∃ e, r = .error e ∧ Runs host a s (.error e) s' t := by
  constructor
  · intro h
    rcases ha : a.run.run host s with ⟨e | v, s₁, t₁⟩
    · cases (Runs.bind_error (f := f) ha).symm.trans h
      exact .inr ⟨e, rfl, ha⟩
    · cases (Runs.bind_ok (f := f) ha).symm.trans h
      exact .inl ⟨v, s₁, t₁, _, ha, rfl, rfl⟩
  · rintro (⟨v, s₁, t₁, t₂, ha, hf, rfl⟩ | ⟨e, rfl, ha⟩)
    · exact (Runs.bind_ok ha).trans (by rw [hf.run_eq])
    · exact ha.bind_error

/-- Telling something comes first, and changes nothing for what follows. -/
theorem runs_notify_bind {notice : Notice} {f : Unit → Action β} {r : Outcome β} :
    Runs host (notify notice >>= f) s r s' t ↔
      ∃ t₀, Runs host (f ()) s r s' t₀ ∧ t = .told notice :: t₀ := by
  rw [runs_bind]
  constructor
  · rintro (⟨v, s₁, t₁, t₂, hn, hf, rfl⟩ | ⟨e, -, hn⟩)
    · obtain ⟨-, rfl, rfl⟩ := runs_notify.mp hn
      exact ⟨t₂, hf, rfl⟩
    · cases (runs_notify.mp hn).1
  · rintro ⟨t₀, hf, rfl⟩
    exact .inl ⟨(), s, [.told notice], t₀, runs_notify.mpr ⟨rfl, rfl, rfl⟩, hf, rfl⟩

/-- A run of an action that is followed by a function of its result. -/
theorem runs_map {a : Action α} {f : α → β} {r : Outcome β} :
    Runs host (f <$> a) s r s' t ↔
      (∃ v, r = .ok (f v) ∧ Runs host a s (.ok v) s' t) ∨
      ∃ e, r = .error e ∧ Runs host a s (.error e) s' t := by
  rw [← bind_pure_comp, runs_bind]
  refine or_congr ⟨?_, ?_⟩ Iff.rfl
  · rintro ⟨v, s₁, t₁, t₂, ha, hf, rfl⟩
    obtain ⟨rfl, rfl, rfl⟩ := runs_pure.mp hf
    exact ⟨v, rfl, by rwa [List.append_nil]⟩
  · rintro ⟨v, rfl, ha⟩
    exact ⟨v, s', t, [], ha, runs_pure.mpr ⟨rfl, rfl, rfl⟩, (List.append_nil t).symm⟩

theorem exists_of_runs_map {a : Action α} {f : α → β} {r : Outcome β}
    (h : Runs host (f <$> a) s r s' t) : ∃ r₀, r = r₀.map f ∧ Runs host a s r₀ s' t := by
  rcases runs_map.mp h with ⟨v, rfl, ha⟩ | ⟨e, rfl, ha⟩
  · exact ⟨.ok v, rfl, ha⟩
  · exact ⟨.error e, rfl, ha⟩

/-- **A run of a stage** is one of its work, between what the stage tells. -/
theorem runs_stage {title failure : String} {work : Action α} {r : Outcome α}
    (h : Runs host (stage title failure work) s r s' t) :
    (∃ v t₀, r = .ok v ∧ Runs host work s (.ok v) s' t₀ ∧
      t = .told (.progress (.begin title)) :: t₀ ++ [.told (.progress (.succeed title))]) ∨
    ∃ e t₀, r = .error (.context (.stage failure) e) ∧ Runs host work s (.error e) s' t₀ ∧
      t = .told (.progress (.begin title)) :: t₀ ++
        [.told (.progress (.fail failure e.message))] := by
  -- a stage ends in its own way after its work, so it is no bind of actions: it is taken apart as
  -- a program
  have run : (stage title failure work).run.run host s = _ :=
    (Program.run_bind host (Program.notify _) _ s).trans
      (congrArg (fun r : Run σ (Outcome α) => Run.mk r.value r.state (_ :: r.trace))
        (Program.run_bind host work.run _ s))
  rcases hw : work.run.run host s with ⟨e | v, s₁, t₀⟩
  · rw [show Program.run host _ s = _ from hw] at run
    cases run.symm.trans h
    exact .inr ⟨e, t₀, rfl, hw, rfl⟩
  · rw [show Program.run host _ s = _ from hw] at run
    cases run.symm.trans h
    exact .inl ⟨v, t₀, rfl, hw, rfl⟩

/-! ### Lists of actions -/

theorem runs_mapM_nil {f : α → Action β} {r : Outcome (List β)} :
    Runs host ([].mapM f) s r s' t ↔ r = .ok [] ∧ s' = s ∧ t = [] := by
  rw [List.mapM_nil]
  exact runs_pure

/-- A run over a list handles the first item and then the others, or fails at the first that it
cannot handle. -/
theorem runs_mapM_cons {f : α → Action β} {x : α} {xs : List α} {r : Outcome (List β)} :
    Runs host ((x :: xs).mapM f) s r s' t ↔
      (∃ y s₁ t₁ t₂, Runs host (f x) s (.ok y) s₁ t₁ ∧ t = t₁ ++ t₂ ∧
        ((∃ ys, r = .ok (y :: ys) ∧ Runs host (xs.mapM f) s₁ (.ok ys) s' t₂) ∨
          ∃ e, r = .error e ∧ Runs host (xs.mapM f) s₁ (.error e) s' t₂)) ∨
      ∃ e, r = .error e ∧ Runs host (f x) s (.error e) s' t := by
  rw [List.mapM_cons, runs_bind]
  refine or_congr ⟨?_, ?_⟩ Iff.rfl
  · rintro ⟨y, s₁, t₁, t₂, hx, hxs, rfl⟩
    rw [bind_pure_comp, runs_map] at hxs
    exact ⟨y, s₁, t₁, t₂, hx, rfl, hxs⟩
  · rintro ⟨y, s₁, t₁, t₂, hx, rfl, hxs⟩
    refine ⟨y, s₁, t₁, t₂, hx, ?_, rfl⟩
    rw [bind_pure_comp, runs_map]
    exact hxs

/-! ### Writing a file -/

/-- The directory that a path lies in has been made, if the path names one; the requests for it. -/
inductive DirRun (host : Host σ) (path : Path) (s : σ) : σ → List Event → Prop
  | unnamed (none : path.directory? = none) : DirRun host path s s []
  | made {dir : Path} {s' : σ} (some : path.directory? = some dir)
      (granted : host.ensureDir s dir = .ok s') : DirRun host path s s' [.dir dir true]

/-- How a file is written, or why it is not. -/
inductive FileRun (host : Host σ) (path : Path) (text : String) (s : σ) :
    Outcome Unit → σ → List Event → Prop
  | noDir {dir : Path} {failure : FileFailure} (some : path.directory? = some dir)
      (refused : host.ensureDir s dir = .error failure) :
      FileRun host path text s (.error (.write dir failure)) s [.dir dir false]
  | refused {s' : σ} {t : List Event} {failure : FileFailure} (dir : DirRun host path s s' t)
      (refused : host.write s' path text = .error failure) :
      FileRun host path text s (.error (.write path failure)) s' (t ++ [.file path text false])
  | written {s₁ s' : σ} {t : List Event} (dir : DirRun host path s s₁ t)
      (granted : host.write s₁ path text = .ok s') :
      FileRun host path text s (.ok ()) s' (t ++ [.file path text true])

/-- The file alone, behind the requests for its directory. -/
theorem runs_writeText {path : Path} {text : String} {r : Outcome Unit} :
    Runs host (do
      match ← Program.writeText path text with
      | .ok () => pure ()
      | .error failure => throw (.write path failure)) s r s' t →
      (∃ failure, host.write s path text = .error failure ∧ r = .error (.write path failure) ∧
        s' = s ∧ t = [.file path text false]) ∨
      host.write s path text = .ok s' ∧ r = .ok () ∧ t = [.file path text true] := by
  intro h
  rw [runs_bind] at h
  rcases h with ⟨answer, s₁, t₁, t₂, hw, h, rfl⟩ | ⟨e, -, hw⟩
  · obtain ⟨hv, rfl, rfl⟩ := runs_lift.mp hw
    cases hv
    rcases hg : host.write s path text with failure | s₂
    · simp only [Program.writeText, Program.run, Program.answered, hg] at h ⊢
      obtain ⟨rfl, rfl, rfl⟩ := runs_throw.mp h
      exact .inl ⟨failure, rfl, rfl, rfl, rfl⟩
    · simp only [Program.writeText, Program.run, Program.answered, hg] at h ⊢
      obtain ⟨rfl, rfl, rfl⟩ := runs_pure.mp h
      exact .inr ⟨rfl, rfl, rfl⟩
  · cases (runs_lift.mp hw).1

/-- **A file is written** in the ways of `FileRun`, and in no other. -/
theorem runs_writeFile {path : Path} {text : String} {r : Outcome Unit}
    (h : Runs host (writeFile path text) s r s' t) : FileRun host path text s r s' t := by
  unfold writeFile at h
  rcases hd : path.directory? with _ | dir
  · -- the path names no directory
    rw [hd] at h
    rcases runs_writeText h with ⟨failure, hw, rfl, rfl, rfl⟩ | ⟨hw, rfl, rfl⟩
    · exact .refused (.unnamed hd) hw
    · exact .written (.unnamed hd) hw
  · rw [hd] at h
    dsimp only at h
    rw [runs_bind] at h
    rcases h with ⟨answer, s₁, t₁, t₂, hm, h, rfl⟩ | ⟨e, -, hm⟩
    · obtain ⟨hv, rfl, rfl⟩ := runs_lift.mp hm
      cases hv
      rcases hg : host.ensureDir s dir with failure | s₂
      · -- the directory is refused, and the file is not asked for
        simp only [Program.makeDir, Program.run, Program.answered, hg] at h ⊢
        rcases runs_bind.mp h with ⟨v, s₃, t₃, t₄, ht, -, -⟩ | ⟨e, rfl, ht⟩
        · cases (runs_throw.mp ht).1
        · obtain ⟨he, rfl, rfl⟩ := runs_throw.mp ht
          cases he
          exact .noDir hd hg
      · simp only [Program.makeDir, Program.run, Program.answered, hg] at h ⊢
        have dir := DirRun.made hd hg
        rcases runs_writeText h with ⟨failure, hw, rfl, rfl, rfl⟩ | ⟨hw, rfl, rfl⟩
        · exact .refused dir hw
        · exact .written dir hw
    · cases (runs_lift.mp hm).1

theorem FileRun.kind {path : Path} {text : String} {e : Error}
    (h : FileRun host path text s (.error e) s' t) : e.kind = .write := by
  cases h <;> rfl

/-- The host answers a request in one way. -/
theorem DirRun.unique {path : Path} {t₂ : List Event} (h₁ : DirRun host path s s₁ t₁)
    (h₂ : DirRun host path s s' t₂) : s₁ = s' := by
  cases h₁ with
  | unnamed none =>
      cases h₂ with
      | unnamed => rfl
      | made some => rw [none] at some; cases some
  | made some granted =>
      cases h₂ with
      | unnamed none => rw [none] at some; cases some
      | made some' granted' =>
          cases some.symm.trans some'
          cases granted.symm.trans granted'
          rfl

theorem FileRun.unique {path : Path} {text : String} (h₁ : FileRun host path text s (.ok ()) s₁ t₁)
    (h₂ : FileRun host path text s (.ok ()) s' t₂) : s₁ = s' := by
  cases h₁ with
  | written dir granted =>
      cases h₂ with
      | written dir' granted' =>
          cases dir.unique dir'
          cases granted.symm.trans granted'
          rfl

/-! ### All requests of an action -/

/-- Every request that the action makes on the host satisfies `P`, whatever comes of it. -/
def Emits (host : Host σ) (P : Event → Prop) (a : Action α) : Prop :=
  ∀ ⦃s : σ⦄ ⦃r : Outcome α⦄ ⦃s' : σ⦄ ⦃t : List Event⦄, Runs host a s r s' t → ∀ e ∈ t, P e

variable {P : Event → Prop}

theorem emits_pure (v : α) : Emits host P (pure v) := by
  intro s r s' t h
  obtain ⟨-, -, rfl⟩ := runs_pure.mp h
  exact fun e he => absurd he List.not_mem_nil

theorem emits_ofOutcome (o : Outcome α) : Emits host P (ofOutcome o) := by
  intro s r s' t h
  obtain ⟨-, -, rfl⟩ := runs_ofOutcome.mp h
  exact fun e he => absurd he List.not_mem_nil

theorem emits_notify {notice : Notice} (told : P (.told notice)) :
    Emits host P (notify notice) := by
  intro s r s' t h
  obtain ⟨-, -, rfl⟩ := runs_notify.mp h
  exact List.forall_mem_singleton.mpr told

theorem Emits.bind {a : Action α} {f : α → Action β} (ha : Emits host P a)
    (hf : ∀ v, Emits host P (f v)) : Emits host P (a >>= f) := by
  intro s r s' t h
  rcases runs_bind.mp h with ⟨v, s₁, t₁, t₂, h₁, h₂, rfl⟩ | ⟨e, -, h₁⟩
  · exact List.forall_mem_append.mpr ⟨ha h₁, hf v h₂⟩
  · exact ha h₁

theorem emits_mapM {f : α → Action β} (hf : ∀ x, Emits host P (f x)) (xs : List α) :
    Emits host P (xs.mapM f) := by
  induction xs with
  | nil =>
      rw [List.mapM_nil]
      exact emits_pure []
  | cons x xs ih =>
      rw [List.mapM_cons]
      exact (hf x).bind fun y => ih.bind fun ys => emits_pure (y :: ys)

/-- A stage makes the requests of its work, and tells of its begin and its end. -/
theorem emits_stage {title failure : String} {work : Action α}
    (told : ∀ p : Progress, p.isMark = true → P (.told (.progress p))) (hw : Emits host P work) :
    Emits host P (stage title failure work) := by
  intro s r s' t h
  rcases runs_stage h with ⟨v, t₀, -, h₀, rfl⟩ | ⟨e, t₀, -, h₀, rfl⟩
  · exact List.forall_mem_append.mpr
      ⟨List.forall_mem_cons.mpr ⟨told _ rfl, hw h₀⟩, List.forall_mem_singleton.mpr (told _ rfl)⟩
  · exact List.forall_mem_append.mpr
      ⟨List.forall_mem_cons.mpr ⟨told _ rfl, hw h₀⟩, List.forall_mem_singleton.mpr (told _ rfl)⟩

/-- Writing a file makes no request but those for its directory and for itself. -/
theorem emits_writeFile {path : Path} {text : String}
    (output : ∀ e : Event, e.isOutput = true → P e) : Emits host P (writeFile path text) := by
  intro s r s' t h
  have made {s₁ t₁} (h : DirRun host path s s₁ t₁) : ∀ e ∈ t₁, P e := by
    cases h with
    | unnamed => exact fun e he => absurd he List.not_mem_nil
    | made => exact List.forall_mem_singleton.mpr (output _ rfl)
  cases runs_writeFile h with
  | noDir => exact List.forall_mem_singleton.mpr (output _ rfl)
  | refused dir | written dir =>
      exact List.forall_mem_append.mpr ⟨made dir, List.forall_mem_singleton.mpr (output _ rfl)⟩

end Action
end Subgraph
