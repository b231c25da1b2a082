import Mathlib.Data.Set.Insert
import Subgraph.Proofs.Interleaving
import Subgraph.Proofs.Writing

/-!
# Turns — where the bindings of an interface stand

Making and writing the bindings of one interface is a task.  A task announces the bindings, makes
their directory, writes their file and tells of it; or it fails on the way.  Tasks under way together
take turns, so that the requests of others come between those of one.

* `Generator.Task`: where a task stands, by what is left of it.
* `Generator.Move`: all that the next request of a task can be, with what is left of the task then.
* `Generator.IsOwn`: the requests of a task.
* `runs_writeTogether`: what comes of tasks under way together, whatever the pace.
-/

namespace Subgraph

open Subgraph.Action

variable {σ : Type} {host : Host σ} {s s' : σ} {t : List Event}

namespace Generator

variable {g : Generator} {l : LoadedAbi} {ls : List LoadedAbi} {a : Artifact} {as : List Artifact}
variable {dir : Path} {e : Error} {p p' : Program (Outcome Artifact)}
variable {ps : List (Program (Outcome Artifact))}

/-! ### The parts of a task -/

/-- What is left of a task when its file has been written. -/
def telling (a : Artifact) : Program (Outcome Artifact) :=
  .tell (.progress (.step "Write types to" a.path.text)) (.done (.ok a))

/-- What is left of a task when its directory is there. -/
def filing (a : Artifact) : Program (Outcome Artifact) :=
  .write a.path a.text fun
    | .ok () => telling a
    | .error failure => .done (.error (.write a.path failure))

/-- What is left of a task when its bindings have been made, and they have a directory. -/
def housing (a : Artifact) (dir : Path) : Program (Outcome Artifact) :=
  .ensureDir dir fun
    | .ok () => filing a
    | .error failure => .done (.error (.write dir failure))

/-- What is left of a task when its bindings have been made. -/
def placing (a : Artifact) : Program (Outcome Artifact) :=
  match a.path.directory? with
  | some dir => housing a dir
  | none => filing a

theorem placing_of_named (named : a.path.directory? = some dir) : placing a = housing a dir := by
  unfold placing
  rw [named]

theorem run_writeBindings_of_error (h : g.render l = .error e) : (g.writeBindings l).run =
    .tell (.generating l.reference.abi l.reference.owner) (.done (.error e)) := by
  unfold writeBindings renderAction Action.ofOutcome
  rw [h]
  rfl

theorem run_writeBindings_of_ok (h : g.render l = .ok a) : (g.writeBindings l).run =
    .tell (.generating l.reference.abi l.reference.owner) (placing a) := by
  unfold writeBindings renderAction Action.ofOutcome placing
  rw [h]
  refine congrArg (Program.tell _) ?_
  show (Action.writeFile a.path a.text >>= fun _ => _).run = _
  unfold Action.writeFile
  rcases a.path.directory? with _ | dir
  · refine congrArg (Program.write a.path a.text) (funext fun answer => ?_)
    cases answer <;> rfl
  · refine congrArg (Program.ensureDir dir) (funext fun answer => ?_)
    rcases answer with failure | _
    · rfl
    · refine congrArg (Program.write a.path a.text) (funext fun answer => ?_)
      cases answer <;> rfl

/-! ### One request of a task -/

/-- A task fails: its bindings cannot be made, or their directory or their file is refused. -/
inductive FailsWith (g : Generator) (host : Host σ) (l : LoadedAbi) : Error → Prop
  | unmade {e : Error} (render : g.render l = .error e) : FailsWith g host l e
  | noDir {a : Artifact} {dir : Path} {s : σ} {failure : FileFailure} (render : g.render l = .ok a)
      (named : a.path.directory? = some dir) (refused : host.ensureDir s dir = .error failure) :
      FailsWith g host l (.write dir failure)
  | noFile {a : Artifact} {s : σ} {failure : FileFailure} (render : g.render l = .ok a)
      (refused : host.write s a.path a.text = .error failure) :
      FailsWith g host l (.write a.path failure)

theorem FailsWith.kind (h : g.FailsWith host l e) :
    e.kind = .generation ∨ e.kind = .config ∨ e.kind = .write := by
  cases h with
  | unmade render => exact (kind_of_render render).imp_right .inl
  | noDir | noFile => exact .inr (.inr rfl)

theorem Failed.failsWith (h : g.Failed host s l e s' t) : g.FailsWith host l e := by
  cases h with
  | unmade render => exact .unmade render
  | unwritten render file =>
      cases file with
      | noDir named refused => exact .noDir render named refused
      | refused dir refused => exact .noFile render refused

/-- Where a task stands: what is left of it. -/
inductive Task (g : Generator) (host : Host σ) (l : LoadedAbi) :
    Program (Outcome Artifact) → Prop
  | waiting : Task g host l (g.writeBindings l).run
  | housing {a : Artifact} {dir : Path} (render : g.render l = .ok a)
      (named : a.path.directory? = some dir) : Task g host l (housing a dir)
  | filing {a : Artifact} (render : g.render l = .ok a) : Task g host l (filing a)
  | telling {a : Artifact} (render : g.render l = .ok a) : Task g host l (telling a)
  | finished {a : Artifact} (render : g.render l = .ok a) : Task g host l (.done (.ok a))
  | failed {e : Error} (fails : g.FailsWith host l e) : Task g host l (.done (.error e))

/-- What the next request of a task can be: what was left of it and the state, before and after. -/
inductive Move (g : Generator) (host : Host σ) (l : LoadedAbi) :
    Program (Outcome Artifact) → σ → Program (Outcome Artifact) → σ → Event → Prop
  | unmade {e : Error} {s : σ} (render : g.render l = .error e) :
      Move g host l (g.writeBindings l).run s (.done (.error e)) s (announcement l)
  | made {a : Artifact} {s : σ} (render : g.render l = .ok a) :
      Move g host l (g.writeBindings l).run s (placing a) s (announcement l)
  | noDir {a : Artifact} {dir : Path} {s : σ} {failure : FileFailure} (render : g.render l = .ok a)
      (named : a.path.directory? = some dir) (refused : host.ensureDir s dir = .error failure) :
      Move g host l (housing a dir) s (.done (.error (.write dir failure))) s (.dir dir false)
  | housed {a : Artifact} {dir : Path} {s s' : σ} (render : g.render l = .ok a)
      (named : a.path.directory? = some dir) (granted : host.ensureDir s dir = .ok s') :
      Move g host l (housing a dir) s (filing a) s' (.dir dir true)
  | noFile {a : Artifact} {s : σ} {failure : FileFailure} (render : g.render l = .ok a)
      (refused : host.write s a.path a.text = .error failure) :
      Move g host l (filing a) s (.done (.error (.write a.path failure))) s
        (.file a.path a.text false)
  | filed {a : Artifact} {s s' : σ} (render : g.render l = .ok a)
      (granted : host.write s a.path a.text = .ok s') :
      Move g host l (filing a) s (telling a) s' (.file a.path a.text true)
  | told {a : Artifact} {s : σ} (render : g.render l = .ok a) :
      Move g host l (telling a) s (.done (.ok a)) s (success a)

/-- **Each request of a task** is one of these. -/
theorem Task.move (h : g.Task host l p) {event : Event}
    (step : p.step host s = some (p', s', event)) : g.Move host l p s p' s' event := by
  cases h with
  | waiting =>
      rcases render : g.render l with cause | a
      · rw [run_writeBindings_of_error render] at step
        cases step
        exact .unmade render
      · rw [run_writeBindings_of_ok render] at step
        cases step
        exact .made render
  | @housing a dir render named =>
      rcases answer : host.ensureDir s dir with failure | s₁
      all_goals
        simp only [Generator.housing, Program.step, Program.answered, answer] at step
        cases step
      · exact .noDir render named answer
      · exact .housed render named answer
  | @filing a render =>
      rcases answer : host.write s a.path a.text with failure | s₁
      all_goals
        simp only [Generator.filing, Program.step, Program.answered, answer] at step
        cases step
      · exact .noFile render answer
      · exact .filed render answer
  | telling render =>
      cases step
      exact .told render
  | finished => cases step
  | failed => cases step

theorem task_placing (render : g.render l = .ok a) : g.Task host l (placing a) := by
  unfold placing
  rcases named : a.path.directory? with _ | dir
  · exact .filing render
  · exact .housing render named

/-- A task that has come to its end is finished, or it has failed. -/
theorem Task.ended {r : Outcome Artifact} (h : g.Task host l (.done r)) :
    (∃ a, r = .ok a ∧ g.render l = .ok a) ∨ ∃ e, r = .error e ∧ g.FailsWith host l e := by
  generalize hp : Program.done r = p at h
  cases h with
  | waiting =>
      rcases render : g.render l with cause | a
      · rw [run_writeBindings_of_error render] at hp
        cases hp
      · rw [run_writeBindings_of_ok render] at hp
        cases hp
  | finished render =>
      cases hp
      exact .inl ⟨_, rfl, render⟩
  | failed fails =>
      cases hp
      exact .inr ⟨_, rfl, fails⟩
  | _ => cases hp

theorem Move.task {event : Event} (h : g.Move host l p s p' s' event) :
    g.Task host l p' := by
  cases h with
  | unmade render => exact .failed (.unmade render)
  | made render => exact task_placing render
  | noDir render named refused => exact .failed (.noDir render named refused)
  | housed render => exact .filing render
  | noFile render refused => exact .failed (.noFile render refused)
  | filed render => exact .telling render
  | told render => exact .finished render

/-- A request lays nothing, or it makes the directory of a task or writes its file. -/
theorem Move.lays {event : Event} (h : g.Move host l p s p' s' event) :
    (s' = s ∧ (∀ dir, event ≠ .dir dir true) ∧ ∀ path text, event ≠ .file path text true) ∨
      (∃ a dir, g.render l = .ok a ∧ a.path.directory? = some dir ∧
        host.ensureDir s dir = .ok s' ∧ event = .dir dir true) ∨
      ∃ a, g.render l = .ok a ∧ host.write s a.path a.text = .ok s' ∧
        event = .file a.path a.text true := by
  cases h with
  | unmade | made | told => exact .inl ⟨rfl, nofun, nofun⟩
  | noDir => exact .inl ⟨rfl, fun _ he => Bool.false_ne_true (Event.dir.inj he).2, nofun⟩
  | noFile => exact .inl ⟨rfl, nofun, fun _ _ he => Bool.false_ne_true (Event.file.inj he).2.2⟩
  | housed render named granted => exact .inr (.inl ⟨_, _, render, named, granted, rfl⟩)
  | filed render granted => exact .inr (.inr ⟨_, render, granted, rfl⟩)

/-- A task fails before it asks for anything, unless its bindings can be made. -/
theorem Move.exists_render {event : Event} (h : g.Move host l p s p' s' event)
    (unfailed : ∀ e, p' ≠ .done (.error e)) : ∃ a, g.render l = .ok a := by
  cases h with
  | unmade => exact absurd rfl (unfailed _)
  | made render => exact ⟨_, render⟩
  | noDir render | housed render | noFile render | filed render | told render => exact ⟨_, render⟩

/-- Nothing but the announcement is asked for unless the bindings can be made. -/
theorem Move.announces_or {event : Event} (h : g.Move host l p s p' s' event) :
    event = announcement l ∨ ∃ a, g.render l = .ok a := by
  cases h with
  | unmade | made => exact .inl rfl
  | noDir render | housed render | noFile render | filed render | told render =>
      exact .inr ⟨_, render⟩

/-- A task has written the file of `a`. -/
def IsFiled (a : Artifact) (p : Program (Outcome Artifact)) : Prop :=
  p = telling a ∨ p = .done (.ok a)

/-- A task has its directory, to write the file of `a`. -/
def IsHoused (a : Artifact) (p : Program (Outcome Artifact)) : Prop := p = filing a ∨ IsFiled a p

/-- Where a task stands, with the files that have their directories and those that are written. -/
structure TaskOn (g : Generator) (host : Host σ) (housed filed : Set Artifact) (l : LoadedAbi)
    (p : Program (Outcome Artifact)) : Prop where
  task : g.Task host l p
  housed : ∀ a, g.render l = .ok a → IsHoused a p → a ∈ housed
  filed : ∀ a, g.render l = .ok a → IsFiled a p → a ∈ filed

theorem taskOn_start (housed filed : Set Artifact) (l : LoadedAbi) :
    g.TaskOn host housed filed l (g.writeBindings l).run := by
  refine ⟨.waiting, fun a render h => ?_, fun a render h => ?_⟩
  all_goals rw [run_writeBindings_of_ok render] at h
  · rcases h with h | h | h <;> cases h
  · rcases h with h | h <;> cases h

/-- A task stands where it stood when more has been done. -/
theorem TaskOn.mono {housed filed housed₁ filed₁ : Set Artifact}
    (h : g.TaskOn host housed filed l p) (hh : housed ⊆ housed₁) (hf : filed ⊆ filed₁) :
    g.TaskOn host housed₁ filed₁ l p :=
  ⟨h.task, fun a render at' => hh (h.housed a render at'),
    fun a render at' => hf (h.filed a render at')⟩

/-- **A task goes on**, and its directory is made or its file is written. -/
theorem TaskOn.step {housed filed housed₁ filed₁ : Set Artifact} {event : Event}
    (h : g.TaskOn host housed filed l p) (move : g.Move host l p s p' s' event)
    (hh : housed ⊆ housed₁) (hf : filed ⊆ filed₁)
    (unnamed : ∀ a, g.render l = .ok a → a.path.directory? = none → a ∈ housed₁)
    (made : ∀ a dir, g.render l = .ok a → a.path.directory? = some dir →
      event = .dir dir true → a ∈ housed₁)
    (written : ∀ a, g.render l = .ok a → event = .file a.path a.text true → a ∈ filed₁) :
    g.TaskOn host housed₁ filed₁ l p' := by
  refine ⟨move.task, fun a render at' => ?_, fun a render at' => ?_⟩
  · cases move with
    | unmade | noDir | noFile => rcases at' with at' | at' | at' <;> cases at'
    | made render' =>
        cases render.symm.trans render'
        unfold placing at at'
        rcases named : a.path.directory? with _ | dir
        · exact unnamed a render named
        · rw [named] at at'
          rcases at' with at' | at' | at' <;> cases at'
    | housed render' named =>
        cases render.symm.trans render'
        exact made a _ render named rfl
    | filed render' =>
        cases render.symm.trans render'
        exact hh (h.housed a render (.inl rfl))
    | told render' =>
        cases render.symm.trans render'
        exact hh (h.housed a render (.inr (.inl rfl)))
  · cases move with
    | unmade | noDir | noFile | housed => rcases at' with at' | at' <;> cases at'
    | made =>
        unfold placing at at'
        split at at' <;> rcases at' with at' | at' <;> cases at'
    | filed render' =>
        cases render.symm.trans render'
        exact written a render rfl
    | told render' =>
        cases render.symm.trans render'
        exact hf (h.filed a render (.inl rfl))

/-- The requests of a task. -/
inductive IsOwn (g : Generator) (l : LoadedAbi) : Event → Prop
  | announcement : IsOwn g l (announcement l)
  | dir {a : Artifact} {dir : Path} {granted : Bool} (render : g.render l = .ok a)
      (named : a.path.directory? = some dir) : IsOwn g l (.dir dir granted)
  | file {a : Artifact} {granted : Bool} (render : g.render l = .ok a) :
      IsOwn g l (.file a.path a.text granted)
  | success {a : Artifact} (render : g.render l = .ok a) : IsOwn g l (success a)

theorem Move.isOwn {event : Event} (h : g.Move host l p s p' s' event) : g.IsOwn l event := by
  cases h with
  | unmade | made => exact .announcement
  | noDir render named | housed render named => exact .dir render named
  | noFile render | filed render => exact .file render
  | told render => exact .success render

/-! ### All requests of one task -/

/-- The requests for bindings that are made and written: their directory, if they have one, and
their file, between the announcement and the step that tells of the file. -/
inductive Complete (l : LoadedAbi) (a : Artifact) : List Event → Prop
  | mk {t : List Event} (dir : t = [] ∨ ∃ dir, t = [.dir dir true]) :
      Complete l a (announcement l :: t ++ [.file a.path a.text true, success a])

theorem complete_of_fileRun (h : FileRun host a.path a.text s (.ok ()) s' t) :
    Complete l a (announcement l :: t ++ [success a]) := by
  cases h with
  | @written s₁ _ t dir granted =>
      have dir' : t = [] ∨ ∃ dir, t = [.dir dir true] := by
        cases dir with
        | unnamed => exact .inl rfl
        | made => exact .inr ⟨_, rfl⟩
      simpa using Complete.mk (l := l) (a := a) dir'

/-! ### Tasks that take turns -/

theorem exists_mem_zip {α β : Type} {R : α → β → Prop} {xs : List α} {ys : List β} {y : β}
    (h : List.Forall₂ R xs ys) (hy : y ∈ ys) : ∃ x, (x, y) ∈ xs.zip ys ∧ R x y ∧ x ∈ xs := by
  obtain ⟨before, after, rfl⟩ := List.append_of_mem hy
  obtain ⟨xs₁, x, xs₂, rfl, h₁, hx, h₂⟩ := forall₂_split h
  refine ⟨x, ?_, hx, List.mem_append_right _ List.mem_cons_self⟩
  rw [List.zip_append h₁.length_eq]
  exact List.mem_append_right _ List.mem_cons_self

/-- Where some tasks stand, after some requests. -/
structure AllTasks (g : Generator) (host : Host σ) (ls : List LoadedAbi)
    (ps : List (Program (Outcome Artifact))) (t : List Event) : Prop where
  tasks : List.Forall₂ (g.Task host) ls ps
  own : ∀ e ∈ t, ∃ l ∈ ls, g.IsOwn l e
  /-- As long as no task has failed, the requests are for bindings that can be made. -/
  made : Unfailed ps → ∀ e ∈ t, ∃ l a, g.render l = .ok a ∧ g.IsOwn l e

theorem allTasks_start (ls : List LoadedAbi) :
    g.AllTasks host ls (ls.map fun l => (g.writeBindings l).run) [] :=
  ⟨List.forall₂_map_right_iff.mpr (List.forall₂_same.mpr fun _ _ => .waiting), nofun, nofun⟩

/-- **Each request of each task** is a move of that task, and the others stand where they stood. -/
theorem AllTasks.step {before after : List (Program (Outcome Artifact))} {event : Event}
    (h : g.AllTasks host ls (before ++ p :: after) t)
    (step : p.step host s = some (p', s', event)) :
    g.AllTasks host ls (before ++ p' :: after) (t ++ [event]) ∧
      ∃ l ∈ ls, g.Move host l p s p' s' event := by
  obtain ⟨ls₁, l, ls₂, rfl, first, task, rest⟩ := forall₂_split h.tasks
  have move := task.move step
  have hl : l ∈ ls₁ ++ l :: ls₂ := List.mem_append_right _ List.mem_cons_self
  refine ⟨⟨List.rel_append first (.cons move.task rest), ?_, fun unfailed => ?_⟩, l, hl, move⟩
  · exact List.forall_mem_append.mpr ⟨h.own, List.forall_mem_singleton.mpr ⟨l, hl, move.isOwn⟩⟩
  · obtain ⟨a, render⟩ := move.exists_render unfailed.ne
    exact List.forall_mem_append.mpr ⟨h.made ((Interleaves.next _ _ step).unfailed unfailed),
      List.forall_mem_singleton.mpr ⟨l, a, render, move.isOwn⟩⟩

/-- **Tasks that take turns** stand somewhere, and all requests are their own. -/
theorem allTasks_of_interleaves
    (h : Interleaves host (ls.map fun l => (g.writeBindings l).run) s ps s' t) :
    g.AllTasks host ls ps t :=
  h.invariant (I := fun ps _ t => g.AllTasks host ls ps t) (fun h step => (h.step step).1)
    (allTasks_start ls)

theorem unfailed_start (ls : List LoadedAbi) :
    Unfailed (ls.map fun l => (g.writeBindings l).run) := by
  intro e mem
  obtain ⟨l, -, hl⟩ := List.mem_map.mp mem
  rcases render : g.render l with cause | a
  · rw [run_writeBindings_of_error render] at hl
    cases hl
  · rw [run_writeBindings_of_ok render] at hl
    cases hl

/-- Tasks under way together proceed in turns, whatever the pace. -/
theorem proceeds_writeTogether {pace : Pace} {r : Outcome (List Artifact)}
    (h : Runs host (g.writeTogether pace ls) s r s' t) :
    Proceeds host (ls.map fun l => (g.writeBindings l).run) s
      (r.map fun as => as.map fun a => .done (.ok a)) s' t :=
  (runs_together_iff (unfailed_start ls)).mp ⟨pace, h⟩

theorem AllTasks.rendered
    (h : g.AllTasks host ls (as.map fun a => .done (.ok a)) t) :
    List.Forall₂ (fun l a => g.render l = .ok a) ls as := by
  refine (List.forall₂_map_right_iff.mp h.tasks).imp fun l a h => ?_
  rcases h.ended with ⟨_, ha, render⟩ | ⟨_, ha, -⟩ <;> cases ha
  exact render

/-- **What comes of tasks under way together**, whatever the pace: all are finished, or the error is
that of one that failed. -/
theorem runs_writeTogether {pace : Pace} {r : Outcome (List Artifact)}
    (h : Runs host (g.writeTogether pace ls) s r s' t) :
    (∀ e ∈ t, ∃ l ∈ ls, g.IsOwn l e) ∧
      ((∃ as, r = .ok as ∧ List.Forall₂ (fun l a => g.render l = .ok a) ls as) ∨
        ∃ e, r = .error e ∧ ∃ l ∈ ls, g.FailsWith host l e) := by
  obtain ⟨ps, steps, joined⟩ := (proceeds_writeTogether h).joined
  have all := allTasks_of_interleaves steps
  refine ⟨all.own, ?_⟩
  cases joined with
  | all as => exact .inl ⟨as, rfl, all.rendered⟩
  | failed mem =>
      obtain ⟨l, -, h, hl⟩ := exists_mem_zip all.tasks mem
      rcases h.ended with ⟨_, he, -⟩ | ⟨_, he, fails⟩ <;> cases he
      exact .inr ⟨_, rfl, l, hl, fails⟩

/-- The bindings of a manifest are not all written because those of some interface fail. -/
theorem WritesAll.failsWith {pace : Pace} {ls' : List LoadedAbi}
    (h : g.WritesAll host pace s ls ls' (.error e) s' t) :
    ∃ frame e₀, e = .context frame e₀ ∧ ∃ l ∈ ls ++ ls', g.FailsWith host l e₀ := by
  cases h with
  | stopped first =>
      obtain ⟨rest, -, failed, -⟩ := first
      exact ⟨_, _, rfl, _, List.mem_append_left _ (List.mem_append_right _ List.mem_cons_self),
        failed.failsWith⟩
  | failed first rest after =>
      rcases (runs_writeTogether rest).2 with ⟨_, he, -⟩ | ⟨_, he, l, hl, fails⟩ <;> cases he
      exact ⟨_, _, rfl, l, List.mem_append_right _ hl, fails⟩

theorem emits_writeTogether {P : Event → Prop} (own : ∀ {l e}, g.IsOwn l e → P e) (pace : Pace)
    (ls : List LoadedAbi) : Emits host P (g.writeTogether pace ls) := by
  intro s r s' t h event he
  obtain ⟨l, -, own'⟩ := (runs_writeTogether h).1 event he
  exact own own'

/-- One task after the other is one way to take turns. -/
theorem emits_writeAll {P : Event → Prop} (own : ∀ {l e}, g.IsOwn l e → P e) (ls : List LoadedAbi) :
    Emits host P (g.writeAll ls) := by
  rw [← writeTogether_nil]
  exact emits_writeTogether own [] ls

end Generator

end Subgraph
