import Subgraph.Proofs.OutputNames
import Subgraph.Proofs.PlainFiles
import Subgraph.Proofs.Turns

/-!
# Obstacles — what may be in the way of the files of a build

A build makes directories and writes files below its output directory, some of them side by side.
What is in the way of a file, if the host refuses nothing else, is a file where it needs a directory
or a directory where it is to be; and below an empty output directory there is none of these but
those of the build.

* `IsEmptyOutput`: nothing is in the output directory, or in the way to it.
* `Built`: directories and files of a build have been made, and nothing else has changed.
* `not_isRefused`: then no file of the build is refused, unless another one is in its way.
* `Construction`: the files of some interfaces are built, up to one that is refused.
* `construction_of_writeTogether`: this is what comes of writing them side by side.
-/

namespace Subgraph

open Subgraph.Action

variable {σ : Type} {host : Host σ} {view : TreeView σ} {s s' s₁ s₂ : σ} {t : List Event}

/-! ### Files that are there -/

namespace TreeView

/-- The files whose directories are there. -/
def housedIn (view : TreeView σ) (s : σ) : Set Artifact :=
  {a | ∀ place, view.Above a.path place → view.node? s place = some .dir}

/-- The files that are there, whatever they hold. -/
def filedIn (view : TreeView σ) (s : σ) : Set Artifact :=
  {a | ∃ content, view.node? s (view.place a.path) = some (.file content)}

theorem Lasts.housedIn_subset (h : view.Lasts s s') : view.housedIn s ⊆ view.housedIn s' :=
  fun _ there place above => h.dirs (there place above)

theorem Lasts.filedIn_subset (h : view.Lasts s s') : view.filedIn s ⊆ view.filedIn s' :=
  fun _ ⟨_, there⟩ => h.files there

/-- A file that has been laid over a state is there, and so are its directories. -/
theorem Laid.there {as : List Artifact} {a : Artifact} (h : view.Laid as s s') (ha : a ∈ as) :
    a ∈ view.housedIn s' ∧ a ∈ view.filedIn s' := by
  obtain ⟨text, written⟩ := exists_written ha
  exact ⟨fun place above => h.dirs ha above, _, h.files written⟩

end TreeView

namespace Build

variable {c : Configuration}

/-! ### The output of a build -/

/-- The output directory is empty, or it can be made: nothing is in it, no file is on the way to it,
and that way does not lead through it. -/
structure IsEmptyOutput (view : TreeView σ) (c : Configuration) (s : σ) : Prop where
  empty : ∀ x ≠ [], view.node? s (x ++ view.place c.outputDir) = none
  free : ∀ {place content}, view.Above (templatesPath c) place →
    view.node? s place ≠ some (.file content)
  around : ∀ {place}, view.Above (templatesPath c) place →
    ∀ x ≠ [], place ≠ x ++ view.place c.outputDir

/-- The classes of the templates are in the output directory. -/
theorem isBelow_templatesPath (valid : Configuration.isExtension c.extension = true) :
    (templatesPath c).IsBelow c.outputDir ["templates." ++ c.extension] := by
  have plain := isSegment_templates valid
  exact ⟨by simp, List.forall_mem_singleton.mpr plain,
    (Path.Extends.refl c.outputDir).join (Path.isName_of_isSegment plain)⟩

variable {names : List (List String)} {as : List Artifact} {p : Path} {x : List String}

theorem place_eq_iff (keeps : host.Keeps view) (h : p.IsBelow c.outputDir x) {y : List String} :
    view.place p = y.reverse ++ view.place c.outputDir ↔ x = y := by
  rw [keeps.place_extends h.ends h.plain, List.append_left_inj, List.reverse_inj]

/-- What a build, whose files have some names, has left at a place: a directory of one of its files,
one of its files, or what was there. -/
inductive Found (view : TreeView σ) (c : Configuration) (names : List (List String)) (s s' : σ)
    (place : FilePlace) : Prop
  | dir {p : Path} {x : List String} (own : x ∈ names) (below : p.IsBelow c.outputDir x)
      (above : view.Above p place) (dir : view.node? s' place = some .dir) :
      Found view c names s s' place
  | file {p : Path} {x : List String} {content : FileContent} (own : x ∈ names)
      (below : p.IsBelow c.outputDir x) (here : view.place p = place)
      (file : view.node? s' place = some (.file content)) : Found view c names s s' place
  | same (same : view.node? s' place = view.node? s place) : Found view c names s s' place

/-- Directories and files of a build have been made, and nothing else has changed. -/
structure Built (view : TreeView σ) (c : Configuration) (names : List (List String)) (s s' : σ) :
    Prop where
  sound : view.Sound s'
  found : ∀ place, Found view c names s s' place
  lasts : view.Lasts s s'

theorem built_refl (sound : view.Sound s) : Built view c names s s :=
  ⟨sound, fun _ => .same rfl, .refl view s⟩

theorem Built.trans (h : Built view c names s s₁) (h₁ : Built view c names s₁ s') :
    Built view c names s s' := by
  refine ⟨h₁.sound, fun place => ?_, h.lasts.trans h₁.lasts⟩
  cases h₁.found place with
  | dir own below above dir => exact .dir own below above dir
  | file own below here file => exact .file own below here file
  | same same =>
      cases h.found place with
      | dir own below above dir => exact .dir own below above (same.trans dir)
      | file own below here file => exact .file own below here (same.trans file)
      | same same' => exact .same (same.trans same')

section

variable (own : x ∈ names) (below : p.IsBelow c.outputDir x)
include own below

theorem built_of_housed (sound : view.Sound s') (h : view.Housed s s' p) :
    Built view c names s s' := by
  refine ⟨sound, fun place => ?_, h.lasts⟩
  by_cases above : view.Above p place
  · exact .dir own below above (h.dirs place above)
  · exact .same (h.rest place above)

theorem built_of_filed (sound : view.Sound s') {text : String} (h : view.Filed s s' p text) :
    Built view c names s s' := by
  refine ⟨sound, fun place => ?_, h.lasts⟩
  by_cases here : place = view.place p
  · exact .file own below here.symm (by rw [here]; exact h.file)
  · exact .same (h.rest place here)

end

/-- Some files are below the output directory, and their names are among some. -/
def AreBelow (c : Configuration) (names : List (List String)) (as : List Artifact) : Prop :=
  ∀ a ∈ as, ∃ x ∈ names, a.path.IsBelow c.outputDir x

/-- Files that have been laid over a state have been built. -/
theorem built_of_laid (own : AreBelow c names as) (sound : view.Sound s')
    (laid : view.Laid as s s') : Built view c names s s' := by
  refine ⟨sound, fun place => ?_, laid.lasts⟩
  rcases laid.node?_cases place with ⟨a, ha, above⟩ | ⟨text, written⟩ | same
  · obtain ⟨x, hx, below⟩ := own a ha
    exact .dir hx below above (laid.dirs ha above)
  · obtain ⟨a, ha, here⟩ := TreeView.exists_of_written written
    obtain ⟨x, hx, below⟩ := own a ha
    exact .file hx below here (laid.files written)
  · exact .same same

/-! ### Files that are not in the way of each other -/

/-- A file is refused: its directory is, or the file is though its directories are there. -/
inductive IsRefused (host : Host σ) (view : TreeView σ) (s : σ) (p : Path) : Prop
  | noDir {dir : Path} {failure : FileFailure} (named : p.directory? = some dir)
      (refused : host.ensureDir s dir = .error failure) : IsRefused host view s p
  | noFile {text : String} {failure : FileFailure}
      (dirs : ∀ place, view.Above p place → view.node? s place = some .dir)
      (refused : host.write s p text = .error failure) : IsRefused host view s p

section

variable (only : host.RefusesOnlyClashes view)
  (valid : Configuration.isExtension c.extension = true) (output : IsEmptyOutput view c s)
  (level : IsLevel names) (built : Built view c names s s₁) (own : x ∈ names)
  (below : p.IsBelow c.outputDir x)
include only valid output level built own below

/-- No file of a build is where another needs a directory. -/
theorem free_of_built (place : FilePlace) (content : FileContent) (above : view.Above p place) :
    view.node? s₁ place ≠ some (.file content) := by
  intro file
  rcases (only.above_iff below (isBelow_templatesPath valid) place).mp above with
    above | ⟨y, some, sub, ne, rfl⟩
  · cases built.found place with
    | dir _ _ _ dir => cases file.symm.trans dir
    | @file q z _ _ below' here =>
        rw [(place_eq_iff only.toKeeps below').mpr rfl] at here
        exact output.around above z.reverse (by simpa using below'.some) here.symm
    | same same => exact output.free above (same.symm.trans file)
  · cases built.found (y.reverse ++ view.place c.outputDir) with
    | dir _ _ _ dir => cases file.symm.trans dir
    | file own' below' here =>
        -- another file has the name of a directory of this one
        cases (place_eq_iff only.toKeeps below').mp here
        exact ne (level _ own' _ own sub)
    | same same =>
        rw [output.empty _ (by simpa using some)] at same
        cases same.symm.trans file

/-- No file of a build has the place of a directory of another. -/
theorem clear_of_built : view.node? s₁ (view.place p) ≠ some .dir := by
  intro dir
  have place := (place_eq_iff only.toKeeps below).mpr rfl
  cases built.found (view.place p) with
  | dir own' below' above =>
      rcases (only.above_iff below' (isBelow_templatesPath valid) _).mp above with
        above | ⟨z, -, sub, ne, here⟩
      · exact output.around above x.reverse (by simpa using below.some) place
      · -- this file has the name of a directory of another one
        cases (place_eq_iff only.toKeeps below).mp here
        exact ne (level _ own _ own' sub)
  | file _ _ _ file => cases dir.symm.trans file
  | same same =>
      rw [place, output.empty _ (by simpa using below.some)] at same
      rw [place] at dir
      cases same.symm.trans dir

/-- **No file of a build is refused**, if no file lies where another needs a directory. -/
theorem not_isRefused : ¬ IsRefused host view s₁ p := by
  rintro (⟨named, refused⟩ | ⟨dirs, refused⟩)
  · have free := free_of_built only valid output level built own below
    obtain ⟨s', made⟩ := only.ensures built.sound named free
    cases made.symm.trans refused
  · have clear := clear_of_built only valid output level built own below
    obtain ⟨s', written⟩ := only.writes built.sound dirs clear _
    cases written.symm.trans refused

end

/-! ### Files in order -/

variable {g : Generator} {l : LoadedAbi} {ls : List LoadedAbi} {a : Artifact} {e : Error}

/-- What comes of the files of some interfaces: all are there, or one of them was refused where some
had been built. -/
inductive Construction (g : Generator) (host : Host σ) (view : TreeView σ) (c : Configuration)
    (names : List (List String)) (s : σ) (ls : List LoadedAbi) :
    Outcome (List Artifact) → σ → Prop
  | all {as : List Artifact} {s' : σ}
      (rendered : List.Forall₂ (fun l a => g.render l = .ok a) ls as)
      (built : Built view c names s s')
      (there : ∀ a ∈ as, a ∈ view.housedIn s' ∧ a ∈ view.filedIn s') :
      Construction g host view c names s ls (.ok as) s'
  | upTo {l : LoadedAbi} {a : Artifact} {s₁ s' : σ} {e : Error} (mem : l ∈ ls)
      (render : g.render l = .ok a) (built : Built view c names s s₁)
      (refused : IsRefused host view s₁ a.path) (kind : e.kind = .write) :
      Construction g host view c names s ls (.error e) s'

section

variable (keeps : host.Keeps view) (named : view.IsNamed) (sound : view.Sound s)
include keeps named sound

/-- Where a file could not be written, it was refused. -/
theorem exists_isRefused {text : String} (own : x ∈ names) (below : p.IsBelow c.outputDir x)
    (file : FileRun host p text s (.error e) s' t) :
    ∃ s₁, Built view c names s s₁ ∧ IsRefused host view s₁ p := by
  cases file with
  | noDir named refused => exact ⟨s, built_refl sound, .noDir named refused⟩
  | refused dir refused =>
      obtain ⟨sound', housed⟩ := TreeView.housed_of_dirRun keeps named sound dir
      exact ⟨s', built_of_housed own below sound' housed, .noFile housed.dirs refused⟩

/-- Files of a build are built in order. -/
theorem built_of_wrote (own : AreBelow c names as) (h : g.Wrote host s ls as s' t) :
    Built view c names s s' ∧ ∀ a ∈ as, a ∈ view.housedIn s' ∧ a ∈ view.filedIn s' := by
  obtain ⟨sound', laid⟩ := h.laid keeps named sound
  exact ⟨built_of_laid own sound' laid, fun a ha => laid.there ha⟩

end

/-! ### Files side by side -/

/-- The file of an interface is one of those of a build. -/
def IsOwned (g : Generator) (c : Configuration) (names : List (List String)) (l : LoadedAbi) :
    Prop := ∀ a, g.render l = .ok a → ∃ x ∈ names, a.path.IsBelow c.outputDir x

variable {q q' : Program (Outcome Artifact)} {ps : List (Program (Outcome Artifact))}

/-- **Each request of a task** builds what is of the build. -/
theorem built_of_step (keeps : host.Keeps view) (named : view.IsNamed) (sound : view.Sound s)
    (own : IsOwned g c names l)
    (h : g.TaskOn host (view.housedIn s) (view.filedIn s) l q) {event : Event}
    (step : q.step host s = some (q', s', event)) :
    Built view c names s s' ∧ g.TaskOn host (view.housedIn s') (view.filedIn s') l q' := by
  have unnamed (x : σ) (a : Artifact) (_ : g.render l = .ok a) (none : a.path.directory? = none) :
      a ∈ view.housedIn x := by
    intro place above
    obtain ⟨dir, some⟩ := named above
    cases none.symm.trans some
  have move := h.task.move step
  rcases move.lays with
    ⟨rfl, dirs, files⟩ | ⟨a, dir, render, hd, granted, rfl⟩ | ⟨a, render, granted, rfl⟩
  · -- the task goes further, and nothing else
    exact ⟨built_refl sound, h.step move subset_rfl subset_rfl (unnamed _)
      (fun _ dir _ _ he => absurd he (dirs dir)) fun _ _ he => absurd he (files _ _)⟩
  · obtain ⟨x, hx, below⟩ := own a render
    have housed := keeps.housed sound hd granted
    have built := built_of_housed hx below (keeps.sound_ensureDir sound hd granted) housed
    refine ⟨built, h.step move built.lasts.housedIn_subset built.lasts.filedIn_subset (unnamed _)
      ?_ nofun⟩
    intro b _ render' _ _
    cases render.symm.trans render'
    exact housed.dirs
  · obtain ⟨x, hx, below⟩ := own a render
    have filed := keeps.filed sound granted
    have built := built_of_filed hx below (keeps.sound_write sound granted) filed
    refine ⟨built, h.step move built.lasts.housedIn_subset built.lasts.filedIn_subset (unnamed _)
      nofun ?_⟩
    intro b render' _
    cases render.symm.trans render'
    exact ⟨_, filed.file⟩

/-- **A request with which a task fails** is refused, if its bindings can be made. -/
theorem isRefused_of_step (bound : ∃ a, g.render l = .ok a)
    (h : g.TaskOn host (view.housedIn s) (view.filedIn s) l q) {event : Event}
    (last : q.step host s = some (.done (.error e), s', event)) :
    e.kind = .write ∧ ∃ a, g.render l = .ok a ∧ IsRefused host view s a.path := by
  have move := h.task.move last
  generalize ended : (.done (.error e) : Program (Outcome Artifact)) = q' at move
  cases move with
  | unmade render =>
      obtain ⟨a, made⟩ := bound
      cases made.symm.trans render
  | noDir render named refused =>
      cases ended
      exact ⟨rfl, _, render, .noDir named refused⟩
  | noFile render refused =>
      cases ended
      -- the file has its directories, for otherwise it would not be asked for
      exact ⟨rfl, _, render, .noFile (h.housed _ render (.inl rfl)) refused⟩
  | made render =>
      unfold Generator.placing at ended
      split at ended <;> cases ended
  | housed | filed | told => cases ended

/-- Where tasks stand that build files side by side. -/
structure Site (g : Generator) (host : Host σ) (view : TreeView σ) (c : Configuration)
    (names : List (List String)) (s : σ) (ls : List LoadedAbi)
    (ps : List (Program (Outcome Artifact))) (s' : σ) : Prop where
  built : Built view c names s s'
  tasks : List.Forall₂ (g.TaskOn host (view.housedIn s') (view.filedIn s')) ls ps

section

variable (keeps : host.Keeps view) (named : view.IsNamed) (own : ∀ l ∈ ls, IsOwned g c names l)
include keeps named own

/-- **Each request of each task** keeps this up. -/
theorem Site.step {before after : List (Program (Outcome Artifact))} {event : Event}
    (h : Site g host view c names s ls (before ++ q :: after) s₁)
    (step : q.step host s₁ = some (q', s', event)) :
    Site g host view c names s ls (before ++ q' :: after) s' := by
  obtain ⟨ls₁, l, ls₂, rfl, tasks₁, task, tasks₂⟩ := forall₂_split h.tasks
  have hl : l ∈ ls₁ ++ l :: ls₂ := List.mem_append_right _ List.mem_cons_self
  obtain ⟨built, task'⟩ := built_of_step keeps named h.built.sound (own l hl) task step
  have mono : ∀ l p, g.TaskOn host (view.housedIn s₁) (view.filedIn s₁) l p →
      g.TaskOn host (view.housedIn s') (view.filedIn s') l p :=
    fun _ _ h => h.mono built.lasts.housedIn_subset built.lasts.filedIn_subset
  exact ⟨h.built.trans built, List.rel_append (tasks₁.imp mono) (.cons task' (tasks₂.imp mono))⟩

theorem site_of_interleaves (sound : view.Sound s)
    (h : Interleaves host (ls.map fun l => (g.writeBindings l).run) s ps s' t) :
    Site g host view c names s ls ps s' := by
  refine h.invariant (I := fun ps s' _ => Site g host view c names s ls ps s')
    (fun site step => site.step keeps named own step) ⟨built_refl sound, ?_⟩
  exact List.forall₂_map_right_iff.mpr
    (List.forall₂_same.mpr fun l _ => Generator.taskOn_start _ _ l)

/-- **Files of a build are built side by side**, whatever the pace, up to one that is refused. -/
theorem construction_of_writeTogether (sound : view.Sound s) {pace : Pace}
    (bound : ∀ l ∈ ls, ∃ a, g.render l = .ok a) {r : Outcome (List Artifact)}
    (h : Runs host (g.writeTogether pace ls) s r s' t) :
    Construction g host view c names s ls r s' := by
  have proceeds := Generator.proceeds_writeTogether h
  rcases r with e | as
  · cases proceeds with
    | failed steps unfailed last =>
        have site := site_of_interleaves keeps named own sound steps
        obtain ⟨ls₁, l, ls₂, rfl, -, task, -⟩ := forall₂_split site.tasks
        have hl : l ∈ ls₁ ++ l :: ls₂ := List.mem_append_right _ List.mem_cons_self
        obtain ⟨kind, a, render, refused⟩ := isRefused_of_step (bound l hl) task last
        exact .upTo hl render site.built refused kind
  · cases proceeds with
    | on steps unfailed =>
        have site := site_of_interleaves keeps named own sound steps
        refine .all (Generator.allTasks_of_interleaves steps).rendered site.built fun a ha => ?_
        obtain ⟨l, -, task, -⟩ :=
          Generator.exists_mem_zip (List.forall₂_map_right_iff.mp site.tasks) ha
        rcases task.task.ended with ⟨_, he, render⟩ | ⟨_, he, -⟩ <;> cases he
        exact ⟨task.housed a render (.inr (.inr rfl)), task.filed a render (.inr rfl)⟩

end

end Build

end Subgraph
