import Mathlib.Data.List.Nodup
import Subgraph.Proofs.FileTrees
import Subgraph.Proofs.OutputPaths

/-!
# Tasks — the bindings of templates, written side by side

The bindings of each template interface are a task of their own, and the tasks may be done side by
side: each makes its requests in order, and those of different tasks come in any order.

* `Generator.Pool`: where all tasks stand, and what they have laid over the state at the start.
* `Pool.step`: each request of each task keeps this up.
* `write_templates_together`: if no task fails, it comes to the same as doing one after the other;
  and if one fails, its error is the answer, and all that has been written is whole.
-/

namespace Subgraph

open Subgraph.Action

variable {σ : Type} {host : Host σ} {view : TreeView σ} {s₀ s s' s₁ : σ} {t : List Event}

namespace Generator

variable {g : Generator} {l : LoadedAbi} {ls : List LoadedAbi} {a : Artifact} {as : List Artifact}
variable {dir : Path} {e : Error} {p p' : Program (Outcome Artifact)}
variable {ps : List (Program (Outcome Artifact))} {housed filed housed₁ filed₁ : Set Artifact}

/-! ### One task -/

/-- The file of a task has a directory. -/
def Named (g : Generator) (l : LoadedAbi) : Prop :=
  ∀ a, g.render l = .ok a → ∃ dir, a.path.directory? = some dir

/-- What a request of a task changes: more may have been laid, and only what is of the task. -/
structure Advances (g : Generator) (host : Host σ) (view : TreeView σ) (s₀ : σ)
    (housed filed : Set Artifact) (l : LoadedAbi) (p : Program (Outcome Artifact)) (s : σ)
    (e : Event) (housed₁ filed₁ : Set Artifact) : Prop where
  overlaid : Overlaid host view s₀ housed₁ filed₁ s
  task : g.TaskOn host housed₁ filed₁ l p
  housed_subset : housed ⊆ housed₁
  filed_subset : filed ⊆ filed₁
  housed_or : ∀ a ∈ housed₁, a ∈ housed ∨ g.render l = .ok a
  filed_or : ∀ a ∈ filed₁, a ∈ filed ∨ g.render l = .ok a
  files : ∀ path text, e = .file path text true → ⟨path, text⟩ ∈ filed₁

/-- **Each request of a task** takes the task further, and lays what is of the task and no more. -/
theorem TaskOn.advances (keeps : host.Keeps view) (named : g.Named l)
    (apart : ∀ a, g.render l = .ok a → ∀ b ∈ filed, view.place b.path = view.place a.path → b = a)
    (overlaid : Overlaid host view s₀ housed filed s) (h : g.TaskOn host housed filed l p) {e : Event}
    (step : p.step host s = some (p', s', e)) :
    ∃ housed₁ filed₁, g.Advances host view s₀ housed filed l p' s' e housed₁ filed₁ := by
  have unnamed {x : Set Artifact} (a : Artifact) (render : g.render l = .ok a)
      (none : a.path.directory? = .none) : a ∈ x := by
    obtain ⟨dir, some⟩ := named a render
    cases none.symm.trans some
  have move := h.task.move step
  rcases move.lays with
    ⟨rfl, dirs, files⟩ | ⟨a, dir, render, hd, granted, rfl⟩ | ⟨a, render, granted, rfl⟩
  · -- the task goes further, and nothing else
    exact ⟨housed, filed, overlaid, h.step move subset_rfl subset_rfl unnamed
      (fun _ dir _ _ he => absurd he (dirs dir)) (fun _ _ he => absurd he (files _ _)),
      subset_rfl, subset_rfl, fun _ => .inl, fun _ => .inl,
      fun path text he => absurd he (files path text)⟩
  · refine ⟨insert a housed, filed, overlaid.house keeps hd granted,
      h.step move (Set.subset_insert a housed) subset_rfl unnamed ?_ nofun,
      Set.subset_insert a housed, subset_rfl, ?_, fun _ => .inl, nofun⟩
    · intro b _ render' _ _
      cases render.symm.trans render'
      exact .inl rfl
    · rintro b (rfl | hb)
      · exact .inr render
      · exact .inl hb
  · refine ⟨housed, insert a filed, overlaid.file keeps (apart a render) granted,
      h.step move subset_rfl (Set.subset_insert a filed) unnamed nofun ?_,
      subset_rfl, Set.subset_insert a filed, fun _ => .inl, ?_, ?_⟩
    · intro b render' _
      cases render.symm.trans render'
      exact .inl rfl
    · rintro b (rfl | hb)
      · exact .inr render
      · exact .inl hb
    · rintro path text ⟨⟩
      exact .inl rfl

/-! ### All tasks -/

/-- The files of some tasks each have a directory, and no two of them are at one place. -/
structure Apart (g : Generator) (view : TreeView σ) (ls : List LoadedAbi) : Prop where
  named : ∀ l ∈ ls, g.Named l
  place : ∀ l ∈ ls, ∀ l' ∈ ls, ∀ a b, g.render l = .ok a → g.render l' = .ok b →
    view.place b.path = view.place a.path → b = a

/-- Where some tasks stand, after some requests: what they have laid over the state at the start. -/
structure Pool (g : Generator) (host : Host σ) (view : TreeView σ) (s₀ : σ) (ls : List LoadedAbi)
    (housed filed : Set Artifact) (ps : List (Program (Outcome Artifact))) (s : σ)
    (t : List Event) : Prop where
  overlaid : Overlaid host view s₀ housed filed s
  tasks : List.Forall₂ (g.TaskOn host housed filed) ls ps
  of_housed : ∀ a ∈ housed, ∃ l ∈ ls, g.render l = .ok a
  of_filed : ∀ a ∈ filed, ∃ l ∈ ls, g.render l = .ok a
  files : ∀ path text, .file path text true ∈ t → ⟨path, text⟩ ∈ filed

theorem pool_start (sound : view.Sound s) (ls : List LoadedAbi) :
    g.Pool host view s ls ∅ ∅ (ls.map fun l => (g.writeBindings l).run) s [] where
  overlaid := .refl sound
  tasks := List.forall₂_map_right_iff.mpr (List.forall₂_same.mpr fun l _ => taskOn_start ∅ ∅ l)
  of_housed := nofun
  of_filed := nofun
  files := nofun

/-- **Each request of each task** keeps up what the tasks have laid. -/
theorem Pool.step (keeps : host.Keeps view) (apart : g.Apart view ls)
    {before after : List (Program (Outcome Artifact))} {e : Event}
    (h : g.Pool host view s₀ ls housed filed (before ++ p :: after) s t)
    (step : p.step host s = some (p', s', e)) :
    ∃ housed₁ filed₁,
      g.Pool host view s₀ ls housed₁ filed₁ (before ++ p' :: after) s' (t ++ [e]) := by
  obtain ⟨ls₁, l, ls₂, rfl, tasks₁, task, tasks₂⟩ := forall₂_split h.tasks
  have hl : l ∈ ls₁ ++ l :: ls₂ := List.mem_append_right _ List.mem_cons_self
  have apart' : ∀ a, g.render l = .ok a → ∀ b ∈ filed, view.place b.path = view.place a.path →
      b = a := by
    intro a render b hb same
    obtain ⟨l', hl', render'⟩ := h.of_filed b hb
    exact apart.place l hl l' hl' a b render render' same
  obtain ⟨housed₁, filed₁, next⟩ := task.advances keeps (apart.named l hl) apart' h.overlaid step
  have mono : ∀ l p, g.TaskOn host housed filed l p → g.TaskOn host housed₁ filed₁ l p :=
    fun _ _ h => h.mono next.housed_subset next.filed_subset
  refine ⟨housed₁, filed₁, next.overlaid,
    List.rel_append (tasks₁.imp mono) (.cons next.task (tasks₂.imp mono)), ?_, ?_, ?_⟩
  · intro a ha
    rcases next.housed_or a ha with old | render
    · exact h.of_housed a old
    · exact ⟨l, hl, render⟩
  · intro a ha
    rcases next.filed_or a ha with old | render
    · exact h.of_filed a old
    · exact ⟨l, hl, render⟩
  · intro path text he
    rcases List.mem_append.mp he with he | he
    · exact next.filed_subset (h.files path text he)
    · exact next.files path text (List.mem_singleton.mp he).symm

/-- **Whatever the order of their requests**, tasks stand where `Pool` says. -/
theorem pool_of_interleaves (keeps : host.Keeps view) (apart : g.Apart view ls)
    (sound : view.Sound s)
    (h : Interleaves host (ls.map fun l => (g.writeBindings l).run) s ps s' t) :
    ∃ housed filed, g.Pool host view s ls housed filed ps s' t := by
  refine h.invariant
    (I := fun ps s' t => ∃ housed filed, g.Pool host view s ls housed filed ps s' t) ?_
    ⟨∅, ∅, pool_start sound ls⟩
  rintro before after p p' s₁ s₂ e t ⟨housed, filed, pool⟩ step
  exact pool.step keeps apart step

/-! ### One task after the other -/

/-- A task whose requests are granted is finished. -/
theorem runs_writeBindings_of_granted (render : g.render l = .ok a)
    (named : a.path.directory? = some dir) (made : host.ensureDir s dir = .ok s₁)
    (written : host.write s₁ a.path a.text = .ok s') :
    Runs host (g.writeBindings l) s (.ok a) s'
      [announcement l, .dir dir true, .file a.path a.text true, success a] := by
  unfold Runs
  rw [run_writeBindings_of_ok render, placing_of_named named]
  simp only [housing, filing, Program.run, Program.answered, made, written]
  rfl

/-- The file of a task has been laid over a state. -/
structure Laid (g : Generator) (housed filed : Set Artifact) (l : LoadedAbi) (a : Artifact) :
    Prop where
  render : g.render l = .ok a
  housed : a ∈ housed
  filed : a ∈ filed
  named : ∃ dir, a.path.directory? = some dir

/-- **Tasks whose files have all been laid over a state** can also be done one after the other. -/
theorem exists_runs_writeAll (keeps : host.Keeps view)
    (whole : Overlaid host view s₀ housed₁ filed₁ s₁)
    (apart : ∀ a ∈ filed₁, ∀ b ∈ filed₁, view.place b.path = view.place a.path → b = a)
    (laid : List.Forall₂ (g.Laid housed₁ filed₁) ls as)
    (h : Overlaid host view s₀ housed filed s) (hh : housed ⊆ housed₁) (hf : filed ⊆ filed₁) :
    ∃ s' t, Runs host (g.writeAll ls) s (.ok as) s' t ∧
      Overlaid host view s₀ (housed ∪ {a | a ∈ as}) (filed ∪ {a | a ∈ as}) s' := by
  unfold writeAll
  induction laid generalizing housed filed s with
  | nil =>
      refine ⟨s, [], runs_mapM_nil.mpr ⟨rfl, rfl, rfl⟩, ?_⟩
      simpa using h
  | @cons l a ls as first rest ih =>
      obtain ⟨dir, named⟩ := first.named
      obtain ⟨s₂, made⟩ := whole.exists_house keeps h hf first.housed named
      have h₂ := h.house keeps named made
      have hh₂ : insert a housed ⊆ housed₁ := Set.insert_subset first.housed hh
      obtain ⟨s₃, written⟩ := whole.exists_file keeps h₂ hh₂ first.filed (.inl rfl) named
      have h₃ := h₂.file keeps (fun b hb => apart a first.filed b (hf hb)) written
      obtain ⟨s', t, runs, h'⟩ := ih h₃ hh₂ (Set.insert_subset first.filed hf)
      have task := runs_writeBindings_of_granted first.render named made written
      refine ⟨s', _, runs_mapM_cons.mpr (.inl ⟨a, s₃, _, t, task, rfl, .inl ⟨as, rfl, runs⟩⟩), ?_⟩
      have more (x : Set Artifact) : insert a x ∪ {b | b ∈ as} = x ∪ {b | b ∈ a :: as} := by
        ext b
        simp only [Set.mem_union, Set.mem_insert_iff, Set.mem_ofPred_eq, List.mem_cons]
        tauto
      rwa [more, more] at h'

/-! ### The places of bindings -/

/-- The place of bindings is in the directory of their owner. -/
theorem place_of_outputPath (keeps : host.Keeps view) {r : AbiReference} {root path : Path}
    {extension : String} (h : r.outputPath root extension = .ok path) : view.place path =
      r.fileName extension :: (r.owner.segments.reverse ++ view.place root) := by
  obtain ⟨segments, path_extends⟩ := extends_outputPath h
  rw [keeps.place_extends path_extends segments, List.reverse_append]
  rfl

theorem place_of_template (keeps : host.Keeps view)
    (template : l.reference.owner.isTemplate = true) (render : g.render l = .ok a) :
    view.place a.path = l.reference.fileName g.options.extension :: l.reference.owner.name ::
      "templates" :: view.place g.options.outputDir := by
  rw [place_of_outputPath keeps (eq_of_render render).2, Owner.segments_of_template template]
  rfl

/-- The bindings of a template have a directory. -/
theorem named_of_template (template : l.reference.owner.isTemplate = true) : g.Named l := by
  intro a render
  have path_extends := (extends_outputPath (eq_of_render render).2).2
  rw [Owner.segments_of_template template] at path_extends
  have two : a.path.Extends g.options.outputDir (["templates"] ++ [l.reference.owner.name] ++ [_]) :=
    path_extends
  exact two.exists_directory?

/-- **The bindings of different templates, or of different interfaces of one, are at different
places.** -/
theorem apart_of_templates (keeps : host.Keeps view)
    (templates : ∀ l ∈ ls, l.reference.owner.isTemplate = true)
    (distinct : (ls.map fun l => (l.reference.owner.name, l.reference.abi)).Nodup) :
    g.Apart view ls := by
  refine ⟨fun l hl => named_of_template (templates l hl), fun l hl l' hl' a b ha hb same => ?_⟩
  rw [place_of_template keeps (templates l hl) ha, place_of_template keeps (templates l' hl') hb]
    at same
  -- the places agree in the name of the file and in that of the template
  obtain ⟨file, rest⟩ := List.cons.inj same
  have key : (l.reference.owner.name, l.reference.abi) =
      (l'.reference.owner.name, l'.reference.abi) :=
    Prod.ext (List.cons.inj rest).1.symm (abi_of_fileName file.symm)
  cases List.inj_on_of_nodup_map distinct hl hl' key
  exact Except.ok.inj (hb.symm.trans ha)

/-- The bindings of data sources and those of templates are at different places. -/
theorem place_ne_of_dataSource (keeps : host.Keeps view)
    (template : l.reference.owner.isTemplate = true) (render : g.render l = .ok a)
    {r : AbiReference} (dataSource : r.owner.isTemplate = false) {path : Path}
    (h : r.outputPath g.options.outputDir g.options.extension = .ok path) :
    view.place path ≠ view.place a.path := by
  rw [place_of_template keeps template render, place_of_outputPath keeps h,
    Owner.segments_of_dataSource dataSource]
  intro same
  -- those of a template are one directory further down
  have length := congrArg List.length same
  simp at length

/-! ### The whole -/

/-- What comes of the tasks for some templates, begun in the state `s` and done side by side.

If all are finished, their files come in the order of the tasks, and they can also be done one after
the other, with the same files and directories at the end.  If one fails, the error is its own.  In
any case every file that has been written holds all the bindings of its own task, and the bindings
of data sources are as they were. -/
structure WrittenTogether (g : Generator) (host : Host σ) (view : TreeView σ) (ls : List LoadedAbi)
    (s : σ) (ps : List (Program (Outcome Artifact))) (r : Outcome (List Artifact)) (s' : σ)
    (t : List Event) : Prop where
  finished : ∀ as, r = .ok as → List.Forall₂ (fun l a => g.render l = .ok a) ls as ∧
    ∃ s₁ t₁, Runs host (g.writeAll ls) s (.ok as) s₁ t₁ ∧
      ∀ place, view.node? s' place = view.node? s₁ place
  failed : ∀ e, r = .error e → ∃ l, (l, .done (.error e)) ∈ ls.zip ps ∧ g.FailsWith host l e
  files : ∀ path text, .file path text true ∈ t → ∃ l ∈ ls, g.render l = .ok ⟨path, text⟩ ∧
    view.node? s' (view.place path) = some (.file (.text text))
  dataSources : ∀ (r : AbiReference) path c, r.owner.isTemplate = false →
    r.outputPath g.options.outputDir g.options.extension = .ok path →
      view.node? s (view.place path) = some (.file c) →
        view.node? s' (view.place path) = some (.file c)

/-- A task that has ended with a value is finished. -/
theorem TaskOn.laid (named : g.Named l) (h : g.TaskOn host housed filed l (.done (.ok a))) :
    g.Laid housed filed l a := by
  rcases h.task.ended with ⟨_, ha, render⟩ | ⟨_, ha, -⟩ <;> cases ha
  exact ⟨render, h.housed a render (.inr (.inr rfl)), h.filed a render (.inr rfl), named a render⟩

/-- A task that has ended with an error has failed with it. -/
theorem TaskOn.failsWith (h : g.TaskOn host housed filed l (.done (.error e))) :
    g.FailsWith host l e := by
  rcases h.task.ended with ⟨_, he, -⟩ | ⟨_, he, fails⟩ <;> cases he
  exact fails

/-- What finished tasks have laid over a state are their files. -/
theorem eq_of_laid (h : List.Forall₂ (g.Laid housed filed) ls as) {x : Set Artifact}
    (of_mem : ∀ a ∈ x, ∃ l ∈ ls, g.render l = .ok a)
    (mem : ∀ l a, g.Laid housed filed l a → a ∈ x) : x = {a | a ∈ as} := by
  ext a
  constructor
  · intro ha
    obtain ⟨l, hl, render⟩ := of_mem a ha
    obtain ⟨b, -, laid, hb⟩ := exists_mem_zip h.flip hl
    cases render.symm.trans laid.render
    exact hb
  · intro ha
    obtain ⟨l, -, laid, -⟩ := exists_mem_zip h ha
    exact mem l a laid

/-- **Where all tasks are finished**, they could have been done one after the other. -/
theorem Pool.finished (keeps : host.Keeps view) (apart : g.Apart view ls) (sound : view.Sound s)
    (h : g.Pool host view s ls housed filed (as.map fun a => .done (.ok a)) s' t) :
    List.Forall₂ (fun l a => g.render l = .ok a) ls as ∧
      ∃ s₁ t₁, Runs host (g.writeAll ls) s (.ok as) s₁ t₁ ∧
        ∀ place, view.node? s' place = view.node? s₁ place := by
  have laid : List.Forall₂ (g.Laid housed filed) ls as := by
    have ended := List.forall₂_map_right_iff.mp h.tasks
    refine ((List.forall₂_and_left ls as).mpr ⟨apart.named, ended⟩).imp ?_
    rintro l a ⟨named, task⟩
    exact task.laid named
  have apart' : ∀ a ∈ filed, ∀ b ∈ filed, view.place b.path = view.place a.path → b = a := by
    intro a ha b hb same
    obtain ⟨l, hl, render⟩ := h.of_filed a ha
    obtain ⟨l', hl', render'⟩ := h.of_filed b hb
    exact apart.place l hl l' hl' a b render render' same
  obtain ⟨s₁, t₁, runs, overlaid⟩ := exists_runs_writeAll keeps h.overlaid apart' laid (.refl sound)
    (Set.empty_subset housed) (Set.empty_subset filed)
  rw [Set.empty_union] at overlaid
  have whole := h.overlaid
  rw [eq_of_laid laid h.of_housed fun _ _ laid => laid.housed,
    eq_of_laid laid h.of_filed fun _ _ laid => laid.filed] at whole
  exact ⟨laid.imp fun _ _ laid => laid.render, s₁, t₁, runs, whole.node?_eq overlaid⟩

/-- **The bindings of templates may be written side by side.**

It does not matter in which order the requests of the different tasks come. -/
theorem write_templates_together (keeps : host.Keeps view)
    (templates : ∀ l ∈ ls, l.reference.owner.isTemplate = true)
    (distinct : (ls.map fun l => (l.reference.owner.name, l.reference.abi)).Nodup)
    (sound : view.Sound s)
    (steps : Interleaves host (ls.map fun l => (g.writeBindings l).run) s ps s' t)
    {r : Outcome (List Artifact)} (joined : Joined ps r) :
    g.WrittenTogether host view ls s ps r s' t := by
  have apart : g.Apart view ls := apart_of_templates keeps templates distinct
  obtain ⟨housed, filed, pool⟩ := pool_of_interleaves keeps apart sound steps
  refine ⟨?_, ?_, ?_, ?_⟩
  · rintro as rfl
    cases joined
    exact pool.finished keeps apart sound
  · rintro e rfl
    cases joined with
    | failed mem =>
        obtain ⟨l, zip, task, -⟩ := exists_mem_zip pool.tasks mem
        exact ⟨l, zip, task.failsWith⟩
  · intro path text he
    have hf := pool.files path text he
    obtain ⟨l, hl, render⟩ := pool.of_filed _ hf
    exact ⟨l, hl, render, pool.overlaid.files hf⟩
  · intro r path c dataSource placed was
    rw [pool.overlaid.rest (fun a ha above => pool.overlaid.free ha above was) fun a ha => ?_]
    · exact was
    · obtain ⟨l, hl, render⟩ := pool.of_filed a ha
      exact place_ne_of_dataSource keeps (templates l hl) render dataSource placed

/-- A task makes its directory, while the others wait. -/
theorem interleaves_housing (before after : List (Program (Outcome Artifact)))
    (render : g.render l = .ok a) (named : a.path.directory? = some dir)
    (made : host.ensureDir s dir = .ok s') :
    Interleaves host (before ++ (g.writeBindings l).run :: after) s (before ++ filing a :: after) s'
      [announcement l, .dir dir true] := by
  rw [run_writeBindings_of_ok render, placing_of_named named]
  refine (Interleaves.next before after rfl).trans (Interleaves.next before after ?_)
  simp only [housing, Program.step, Program.answered, made]
  rfl

/-- A task writes its file, while the others wait. -/
theorem interleaves_filing (before after : List (Program (Outcome Artifact)))
    (written : host.write s a.path a.text = .ok s') :
    Interleaves host (before ++ filing a :: after) s (before ++ .done (.ok a) :: after) s'
      [.file a.path a.text true, success a] := by
  have told : (telling a).step host s' = some (.done (.ok a), s', success a) := rfl
  refine (Interleaves.next before after ?_).trans (Interleaves.next before after told)
  simp only [filing, Program.step, Program.answered, written]
  rfl

/-- An interface of a template, with no events in it. -/
def poolAbi (abi : String) (file : Path) : LoadedAbi :=
  ⟨⟨.template "Pool", abi, file⟩, .ofDefinitions abi file []⟩

def poolAbis : List LoadedAbi := [poolAbi "Pool" ⟨"pool.json"⟩, poolAbi "Vault" ⟨"vault.json"⟩]

def poolGenerator : Generator := ⟨.tendermint, { outputDir := ⟨"out"⟩ }, Interface.readDefinitions⟩

theorem exists_render_poolAbi (abi : String) (file path : Path)
    (h : (poolAbi abi file).reference.outputPath ⟨"out"⟩ "ts" = .ok path) :
    ∃ text, poolGenerator.render (poolAbi abi file) = .ok ⟨path, text⟩ := by
  obtain ⟨text, made⟩ : ∃ text, (poolAbi abi file).interface.bindings = .ok text :=
    Interface.exists_bindings rfl (Interface.exists_format_ofDefinitions rfl)
  refine ⟨text, ?_⟩
  change (_ >>= fun text => (poolAbi abi file).reference.outputPath ⟨"out"⟩ "ts" >>= _) = _
  rw [made, h]
  rfl

/-- A tree with the directory of a template. -/
def poolTree : FileTree :=
  ⟨[], [(["out"], .dir), (["templates", "out"], .dir), (["Pool", "templates", "out"], .dir)]⟩

theorem exists_write_poolTree (path : Path) (q : FilePlace) (text : String)
    (located : poolTree.locate path = .ok q) (above : poolTree.at? q.tail = some .dir)
    (free : poolTree.at? q ≠ some .dir) : ∃ t, FileTree.host.write poolTree path text = .ok t :=
  ⟨_, FileTree.write_of_locate located above free text⟩

/-- Both tasks make the directory, and the second is the first to write its file. -/
theorem write_templates_together_poolAbis : ∃ a b s' t,
    WrittenTogether poolGenerator FileTree.host (FileTree.view []) poolAbis (FileTree.empty [])
      [.done (.ok a), .done (.ok b)] (.ok [a, b]) s' t := by
  have keeps := FileTree.keeps []
  have sound := FileTree.sound_empty []
  obtain ⟨poolText, render₁⟩ := exists_render_poolAbi "Pool" ⟨"pool.json"⟩
    ⟨"out/templates/Pool/Pool.ts"⟩ (by decide +kernel)
  obtain ⟨vaultText, render₂⟩ := exists_render_poolAbi "Vault" ⟨"vault.json"⟩
    ⟨"out/templates/Pool/Vault.ts"⟩ (by decide +kernel)
  have named₁ : Path.directory? ⟨"out/templates/Pool/Pool.ts"⟩ = some ⟨"out/templates/Pool"⟩ := by
    decide +kernel
  have named₂ : Path.directory? ⟨"out/templates/Pool/Vault.ts"⟩ = some ⟨"out/templates/Pool"⟩ := by
    decide +kernel
  have made₁ : FileTree.host.ensureDir (.empty []) ⟨"out/templates/Pool"⟩ = .ok poolTree := by
    decide +kernel
  have made₂ : FileTree.host.ensureDir poolTree ⟨"out/templates/Pool"⟩ = .ok poolTree := by
    decide +kernel
  obtain ⟨s₁, written₁⟩ := exists_write_poolTree ⟨"out/templates/Pool/Pool.ts"⟩
    ["Pool.ts", "Pool", "templates", "out"] poolText (by decide +kernel) (by decide) (by decide)
  obtain ⟨s₂, written₂⟩ := exists_write_poolTree ⟨"out/templates/Pool/Vault.ts"⟩
    ["Vault.ts", "Pool", "templates", "out"] vaultText (by decide +kernel) (by decide) (by decide)
  -- the first file can be written after the second because it can be written before
  have houses := ((Overlaid.refl sound).house (a := ⟨_, poolText⟩) keeps named₁ made₁).house
    (a := ⟨_, vaultText⟩) keeps named₂ made₂
  have whole := houses.file (a := ⟨_, poolText⟩) keeps nofun written₁
  have rest := houses.file (a := ⟨_, vaultText⟩) keeps nofun written₂
  obtain ⟨s', written⟩ :=
    whole.exists_file keeps rest subset_rfl (.inl rfl) (.inr (.inl rfl)) named₁
  have steps : Interleaves FileTree.host (poolAbis.map fun l => (poolGenerator.writeBindings l).run)
      (.empty []) _ s' _ := (((interleaves_housing [] [_] render₁ named₁ made₁).trans
    (interleaves_housing [_] [] render₂ named₂ made₂)).trans
    (interleaves_filing [_] [] written₂)).trans (interleaves_filing [] [_] written)
  exact ⟨_, _, s', _, write_templates_together keeps (by decide) (by decide) sound steps
    (.all [_, _])⟩

end Generator

end Subgraph
